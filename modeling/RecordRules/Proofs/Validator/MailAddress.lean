/-
E-mail addresses: what the sanitizer leaves of those that the validator accepts.

* `mem_of_mem_splitChars`: the characters of a text are those of its parts and the
  separator;
* `Shape.of_mem_of_isEmail`: the characters of an address;
* `Shape.filter_isEmailChar`: of these the sanitizer knows all but the slash;
* `mailSpec`, `Engine.run_mailField`: a field for addresses, and what a run makes of it;
* `Validator.email_kept_iff`: an address that is accepted is left as it is iff it has no
  slash, by the sanitizer and by a run.
-/
import RecordRules.Proofs.Engine.Arguments
import RecordRules.Proofs.Engine.Running

namespace RecordRules

/-! ### Characters of addresses -/

lemma mem_of_mem_splitChars (sep : Char) {c : Char} {s : List Char} (mem : c ∈ s) :
    c = sep ∨ ∃ part ∈ splitChars sep s, c ∈ part := by
  induction s with
  | nil => cases mem
  | cons d rest ih =>
    rw [splitChars]
    split
    · next is_sep =>
      rcases List.mem_cons.mp mem with rfl | mem
      · exact .inl is_sep
      · refine (ih mem).imp_right fun ⟨part, there, inside⟩ => ?_
        exact ⟨part, List.mem_cons_of_mem _ there, inside⟩
    · next not_sep =>
      split
      · next none_left =>
        rcases List.mem_cons.mp mem with rfl | mem
        · exact .inr ⟨[c], List.mem_singleton_self _, List.mem_singleton_self _⟩
        · rw [none_left] at ih
          exact (ih mem).imp_right fun ⟨part, there, _⟩ => absurd there List.not_mem_nil
      · next first others parts =>
        rcases List.mem_cons.mp mem with rfl | mem
        · exact .inr ⟨c :: first, List.mem_cons_self, List.mem_cons_self⟩
        · rw [parts] at ih
          refine (ih mem).imp_right fun ⟨part, there, inside⟩ => ?_
          rcases List.mem_cons.mp there with rfl | there
          · exact ⟨d :: part, List.mem_cons_self, List.mem_cons_of_mem _ inside⟩
          · exact ⟨part, List.mem_cons_of_mem _ there, inside⟩

lemma splitChars_of_not_mem {sep : Char} {s : List Char} (absent : sep ∉ s) : splitChars sep s = [s] := by
  induction s with
  | nil => rfl
  | cons c rest ih =>
    rw [List.mem_cons, not_or] at absent
    rw [splitChars, if_neg (Ne.symm absent.1), ih absent.2]

namespace Shape

variable {s : List Char} {c : Char}

lemma isMailboxChar_of_isAlphanum (h : c.isAlphanum = true) : isMailboxChar c = true := by
  rw [isMailboxChar, h, Bool.true_or]

/-- The characters of a host name may stand in front of the `@` as well. -/
lemma isMailboxChar_of_isHostLabel (label : isHostLabel s = true) (mem : c ∈ s) : isMailboxChar c = true := by
  simp only [isHostLabel, Bool.and_eq_true, List.all_eq_true] at label
  have inside := label.1.1.2 c mem
  rw [Bool.or_eq_true, beq_iff_eq] at inside
  rcases inside with alphanum | rfl
  · exact isMailboxChar_of_isAlphanum alphanum
  · decide

/-- An address is made of the characters of mailboxes and of `@`, which it has. -/
lemma of_mem_of_isEmail (address : isEmail s = true) :
    '@' ∈ s ∧ ∀ c ∈ s, c = '@' ∨ isMailboxChar c = true := by
  rw [isEmail] at address
  split at address
  · next mailbox host parts =>
    simp only [Bool.and_eq_true, List.all_eq_true] at address
    obtain ⟨⟨⟨-, in_mailbox⟩, -⟩, labels⟩ := address
    constructor
    · by_contra absent
      rw [splitChars_of_not_mem absent] at parts
      simp at parts
    · intro c mem
      rcases mem_of_mem_splitChars '@' mem with rfl | ⟨part, there, inside⟩
      · exact .inl rfl
      · rw [parts, List.mem_cons, List.mem_singleton] at there
        rcases there with rfl | rfl
        · exact .inr (in_mailbox c inside)
        · rcases mem_of_mem_splitChars '.' inside with rfl | ⟨label, there, inside⟩
          · exact .inr (by decide)
          · exact .inr (isMailboxChar_of_isHostLabel (labels label there) inside)
  · cases address

/-- The sanitizer knows the characters of mailboxes, but for the slash. -/
lemma isEmailChar_of_isMailboxChar (h : isMailboxChar c = true) (not_slash : c ≠ '/') :
    Sanitizer.isEmailChar c = true := by
  have signs : ".!#$%&'*+/=?^_`\x7b|\x7d~-".toList.all (fun d => d == '/' || Sanitizer.isEmailChar d) = true := by
    decide
  rw [isMailboxChar, Bool.or_eq_true, List.contains_iff_mem] at h
  rcases h with alphanum | sign
  · rw [Sanitizer.isEmailChar, alphanum, Bool.true_or]
  · have known := List.all_eq_true.mp signs c sign
    rw [Bool.or_eq_true, beq_iff_eq] at known
    exact known.resolve_left not_slash

/-- Nothing but slashes is removed from an address. -/
lemma filter_isEmailChar (address : isEmail s = true) : s.filter Sanitizer.isEmailChar = s.filter (· ≠ '/') := by
  refine List.filter_congr fun c mem => ?_
  by_cases slash : c = '/'
  · rw [slash]
    decide
  · have known : Sanitizer.isEmailChar c = true := by
      rcases (of_mem_of_isEmail address).2 c mem with rfl | inside
      · decide
      · exact isEmailChar_of_isMailboxChar inside slash
    rw [known, decide_eq_true slash]

/-- An address has no white space to trim, wherever it stands. -/
lemma trim_of_isEmail (address : isEmail s = true) : Text.trimBoth Sanitizer.isTrimmed s = s := by
  have foreign : [' ', '\t', '\n', '\r', '\x00', '\x0b'].all (fun d => !(d == '@' || isMailboxChar d)) = true := by
    decide
  refine Text.trimBoth_eq_self_of_forall fun c mem => ?_
  rw [← Bool.not_eq_true]
  intro trimmed
  have among : c ∈ [' ', '\t', '\n', '\r', '\x00', '\x0b'] := by
    simpa [Sanitizer.isTrimmed, or_assoc] using trimmed
  have outside := List.all_eq_true.mp foreign c among
  have inside := (of_mem_of_isEmail address).2 c mem
  rw [← beq_iff_eq (b := '@'), ← Bool.or_eq_true] at inside
  rw [inside] at outside
  cases outside

end Shape

/-! ### A field for addresses -/

/-- The text without slashes. -/
def withoutSlashes (s : String) : String := String.ofList (s.toList.filter (· ≠ '/'))

lemma withoutSlashes_eq_self_iff {s : String} : withoutSlashes s = s ↔ '/' ∉ s.toList := by
  rw [withoutSlashes, ← String.toList_inj, String.toList_ofList, List.filter_eq_self]
  simp only [decide_eq_true_eq]
  exact ⟨fun h mem => h '/' mem rfl, fun h c mem slash => h (slash ▸ mem)⟩

/-- What is said about a field for addresses. -/
def mailSpec : FieldSpec := ⟨none, some "trim|email", some "required|email"⟩

namespace Engine

variable {registry : Registry} {id : String} {record : Record} {s : String}

/-- The rules of a field for addresses. -/
def mailRules (id : String) : FieldRules :=
  ⟨Label.humanize id, [⟨"trim", [], none⟩, ⟨"email", [], none⟩],
    [⟨"required", [], none⟩, ⟨"email", [], none⟩]⟩

/-- An engine with one field for addresses. -/
def ofMailField (registry : Registry) (id : String) : Engine := ⟨[(id, mailRules id)], [], registry⟩

lemma ofConfiguration_mailSpec (registry : Registry) (id : String) :
    ofConfiguration registry ⟨[(id, mailSpec)]⟩ = .ok (ofMailField registry id) := by
  have sanitizations : Rule.ofOptional .sanitization (some "trim|email") =
      .ok [⟨"trim", [], none⟩, ⟨"email", [], none⟩] := by decide +kernel
  have validations : Rule.ofOptional .validation (some "required|email") =
      .ok [⟨"required", [], none⟩, ⟨"email", [], none⟩] := by decide +kernel
  let addition : Addition :=
    ⟨none, [⟨"trim", [], none⟩, ⟨"email", [], none⟩], [⟨"required", [], none⟩, ⟨"email", [], none⟩]⟩
  have read : Addition.ofSpec mailSpec = .ok addition :=
    bind_eq_ok_iff.mpr ⟨_, sanitizations, bind_eq_ok_iff.mpr ⟨_, validations, rfl⟩⟩
  have added : (Addition.ofSpec mailSpec).map (fun addition => (id, addition)) = .ok (id, addition) := by
    rw [read]
    rfl
  exact bind_eq_ok_iff.mpr ⟨[(id, addition)], mapM_eq_ok_iff.mpr (.cons added .nil), rfl⟩

/-- The address of a record is trimmed, which changes nothing, and loses its slashes. -/
lemma sanitize_mailField (registry : Registry) (found : record.get? id = some (.string s))
    (address : Shape.isEmail s.toList = true) :
    (ofMailField registry id).sanitize record = .ok (record.put id (.string (withoutSlashes s))) := by
  have trimmed : applyRule registry (.string s) ⟨"trim", [], none⟩ = .ok (.string s) := by
    have named : Text.lowerString (Rule.mk "trim" [] none).name = Sanitizer.trim.name := by decide
    rw [applyRule_of_named named]
    change Except.ok (Json.string (String.ofList (Text.trimBoth Sanitizer.isTrimmed s.toList))) = _
    rw [Shape.trim_of_isEmail address, String.ofList_toList]
  have filtered : applyRule registry (.string s) ⟨"email", [], none⟩ = .ok (.string (withoutSlashes s)) := by
    have named : Text.lowerString (Rule.mk "email" [] none).name = Sanitizer.email.name := by decide
    rw [applyRule_of_named named]
    change Except.ok (Json.string (String.ofList (s.toList.filter Sanitizer.isEmailChar))) = _
    rw [Shape.filter_isEmailChar address, withoutSlashes]
  have applied : applyRules registry [⟨"trim", [], none⟩, ⟨"email", [], none⟩] (.string s) =
      .ok (.string (withoutSlashes s)) := by
    rw [applyRules, List.foldlM_cons, trimmed]
    exact filtered
  exact foldlM_cons_eq_ok_iff.mpr
    ⟨_, sanitizeField_eq_ok_iff.mpr (.inr ⟨.string s, _, found, applied, rfl⟩), rfl⟩

/-- An address that has lost its slashes is there; it passes if it is an address still. -/
lemma failuresOf_mailField (surroundings : Surroundings) (registry : Registry) {s : String}
    (found : record.get? id = some (.string s)) (at_sign : '@' ∈ s.toList) :
    ∃ failures, failuresOf surroundings (ofMailField registry id) record = .ok failures ∧
      (failures = [] ↔ Shape.isEmail s.toList = true) := by
  have not_blank : Text.isAllBlank s.toList = false := by
    rw [← Bool.not_eq_true]
    intro blank
    exact absurd (List.all_eq_true.mp blank '@' at_sign) (by decide)
  have present : Failure.isBlank (record.get? id) = false := by
    rw [found]
    exact not_blank
  have required : Validator.required.check surroundings id record [] = .ok true := by
    rw [Validator.check, found]
    dsimp only [Validator.isPresent]
    rw [not_blank]
    rfl
  have email : Validator.email.check surroundings id record [] = .ok (Shape.isEmail s.toList) := by
    rw [Validator.check, found]
    rfl
  let failure := Failure.ofRule id (Label.humanize id) (record.get? id) "email" ⟨"email", [], none⟩ none
  have first : judge surroundings registry record id (Label.humanize id) ⟨"required", [], none⟩ = .ok none := by
    have named : Text.lowerString (Rule.mk "required" [] none).name = Validator.required.name := by decide
    rw [judge_of_named named]
    exact verdictOf_of_check present required
  have second : judge surroundings registry record id (Label.humanize id) ⟨"email", [], none⟩ =
      .ok (if Shape.isEmail s.toList then none else some failure) := by
    have named : Text.lowerString (Rule.mk "email" [] none).name = Validator.email.name := by decide
    rw [judge_of_named named]
    exact verdictOf_of_check present email
  have judged : fieldFailures surroundings registry record id (mailRules id) =
      .ok ([none, if Shape.isEmail s.toList then none else some failure].filterMap fun result => result) :=
    map_eq_ok_iff.mpr ⟨_, mapM_eq_ok_iff.mpr (.cons first (.cons second .nil)), rfl⟩
  refine ⟨_, map_eq_ok_iff.mpr ⟨_, mapM_eq_ok_iff.mpr (.cons judged .nil), rfl⟩, ?_⟩
  cases Shape.isEmail s.toList <;> simp

/-- What a run makes of an address: if it has a result, then this is the record with the
address without its slashes. It is the record as it was iff the address has none. -/
lemma run_mailField (surroundings : Surroundings) (registry : Registry) (found : record.get? id = some (.string s))
    (address : Shape.isEmail s.toList = true) :
    ∃ next result, run surroundings (ofMailField registry id) record false = .ok (next, result) ∧
      (∀ out ∈ result, out = record.put id (.string (withoutSlashes s))) ∧
      (result = some record ↔ '/' ∉ s.toList) := by
  have sanitized := sanitize_mailField registry found address
  have kept := Keyed.get?_put_self record id (.string (withoutSlashes s))
  have at_sign : '@' ∈ (withoutSlashes s).toList := by
    rw [withoutSlashes, String.toList_ofList, List.mem_filter]
    exact ⟨(Shape.of_mem_of_isEmail address).1, by decide⟩
  obtain ⟨failures, validated, none_iff⟩ := failuresOf_mailField surroundings registry kept at_sign
  refine ⟨_, if failures = [] then some (record.put id (.string (withoutSlashes s))) else none,
    run_eq_ok sanitized validated false, ?_, ?_⟩
  · intro out mem
    rw [Option.mem_def, Option.ite_none_right_eq_some] at mem
    exact (Option.some.inj mem.2).symm
  · rw [Option.ite_none_right_eq_some, Option.some.injEq, none_iff, ← withoutSlashes_eq_self_iff]
    constructor
    · rintro ⟨-, same⟩
      rw [same, found] at kept
      exact (Json.string.inj (Option.some.inj kept)).symm
    · intro same
      rw [same]
      exact ⟨address, Keyed.put_eq_self found⟩

end Engine

/-! ### The two rules -/

namespace Validator

/-- **What is left of an address.** Of an address that the validator accepts the sanitizer
removes the slashes, and so leaves it as it is iff it has none. The same holds for a run
with both rules, behind a trimming and a check for presence: if the run has a result,
this is the record with the address without slashes. -/
theorem email_kept_iff {surroundings : Surroundings} {field : String} {record : Record} {arguments : List String}
    {s : String} (found : record.get? field = some (.string s))
    (accepted : email.check surroundings field record arguments = .ok true) :
    (∀ options, Sanitizer.email.apply (.string s) options = .ok (.string (withoutSlashes s))) ∧
      (∀ options, Sanitizer.email.apply (.string s) options = .ok (.string s) ↔ '/' ∉ s.toList) ∧
      ∀ registry, ∃ engine next result,
        Engine.ofConfiguration registry ⟨[(field, mailSpec)]⟩ = .ok engine ∧
          Engine.run surroundings engine record false = .ok (next, result) ∧
          (∀ out ∈ result, out = record.put field (.string (withoutSlashes s))) ∧
          (result = some record ↔ '/' ∉ s.toList) := by
  have address : Shape.isEmail s.toList = true := by
    rw [check, found] at accepted
    exact Except.ok.inj accepted
  have left : ∀ options, Sanitizer.email.apply (.string s) options = .ok (.string (withoutSlashes s)) := by
    intro options
    rw [Sanitizer.apply, Sanitizer.mapText, Shape.filter_isEmailChar address, withoutSlashes]
  refine ⟨left, fun options => ?_, fun registry => ?_⟩
  · rw [left options, Except.ok.injEq, Json.string.injEq, withoutSlashes_eq_self_iff]
  · obtain ⟨next, result, ran, out_eq, kept_iff⟩ := Engine.run_mailField surroundings registry found address
    exact ⟨_, next, result, Engine.ofConfiguration_mailSpec registry field, ran, out_eq, kept_iff⟩

/-- An address with most of the signs that are allowed in it. -/
theorem email_kept_iff_signs :
    let address := "o'neil+a.b!#$%&*=?^_`\x7b|\x7d~-1@mail-1.example.com"
    let record : Record := [("mail", .string address)]
    email.check .newYear "mail" record [] = .ok true ∧
      Sanitizer.email.apply (.string address) [] = .ok (.string address) := by
  intro address record
  have accepted : email.check .newYear "mail" record [] = .ok true := by decide +kernel
  exact ⟨accepted, ((email_kept_iff rfl accepted).2.1 []).mpr (by decide +kernel)⟩

/-- A slash is allowed in an address and is removed from it; what is left is another
address. -/
theorem not_email_kept :
    (email.check .newYear "mail" [("mail", .string "a/b@example.com")] [] = .ok true ∧
        Sanitizer.email.apply (.string "a/b@example.com") [] = .ok (.string "ab@example.com") ∧
        email.check .newYear "mail" [("mail", .string "ab@example.com")] [] = .ok true) ∧
      ¬ ∀ (surroundings : Surroundings) (field : String) (record : Record) (arguments options : List String)
          (s : String), record.get? field = some (.string s) →
        email.check surroundings field record arguments = .ok true →
          Sanitizer.email.apply (.string s) options = .ok (.string s) := by
  have accepted : email.check .newYear "mail" [("mail", .string "a/b@example.com")] [] = .ok true := by
    decide +kernel
  have filtered : String.ofList ("a/b@example.com".toList.filter Sanitizer.isEmailChar) = "ab@example.com" := by
    decide +kernel
  have left : Sanitizer.email.apply (.string "a/b@example.com") [] = .ok (.string "ab@example.com") := by
    rw [Sanitizer.apply, Sanitizer.mapText, filtered]
  refine ⟨⟨accepted, left, by decide +kernel⟩, fun all => ?_⟩
  have kept := all .newYear "mail" _ [] [] _ rfl accepted
  rw [left] at kept
  exact absurd (Json.string.inj (Except.ok.inj kept)) (by decide)

end Validator

end RecordRules
