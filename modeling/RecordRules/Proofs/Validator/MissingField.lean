/-
Validators on fields that are missing.

A rule other than the two for presence accepts a missing field. But six of the rules look
at their first argument before they look at the field, and refuse every field if it does
not serve them.

* `CountText`: how counts are written, with `readNatural?_eq_some_iff`;
* `Validator.HasArguments`: the arguments without which a rule accepts nothing;
* `Validator.check_of_not_hasArguments`: without them it refuses every field;
* `Validator.check_of_missing`: with them it accepts a missing one;
* `Validator.missing_accepted_iff`: so a missing field is accepted iff the rule is not one
  for presence and has its arguments.
-/
import RecordRules.Proofs.Decimal.LiteralText
import RecordRules.Validator.Basic

namespace RecordRules

/-! ### Counts -/

/-- A count as a text: digits, with or without a plus sign. -/
inductive CountText : Nat → List Char → Prop where
  | mk {sign digits : List Char} (signed : SignText false sign) (some_digit : digits ≠ [])
      (all : ∀ c ∈ digits, c.isDigit = true) : CountText (numberOf digits) (sign ++ digits)

section Counts

variable {limit n : Nat} {s : List Char}

/-- Without a plus sign the whole text is digits. -/
lemma readNatural?_of_bare (bare : s.head? ≠ some '+') :
    readNatural? limit s =
      if s ≠ [] ∧ s.all Char.isDigit ∧ numberOf s ≤ limit then some (numberOf s) else none := by
  rw [readNatural?]
  rintro rest rfl
  exact bare rfl

/-- A text is read as a number iff it is a count that is not too large. -/
lemma readNatural?_eq_some_iff : readNatural? limit s = some n ↔ CountText n s ∧ n ≤ limit := by
  constructor
  · intro read
    by_cases plus : s.head? = some '+'
    · obtain ⟨rest, rfl⟩ := List.head?_eq_some_iff.mp plus
      rw [readNatural?, Option.ite_none_right_eq_some, Option.some.injEq] at read
      obtain ⟨⟨some_digit, all, small⟩, rfl⟩ := read
      exact ⟨.mk .plus some_digit (List.all_eq_true.mp all), small⟩
    · rw [readNatural?_of_bare plus, Option.ite_none_right_eq_some, Option.some.injEq] at read
      obtain ⟨⟨some_digit, all, small⟩, rfl⟩ := read
      exact ⟨.mk .none some_digit (List.all_eq_true.mp all), small⟩
  · rintro ⟨@⟨sign, digits, signed, some_digit, all⟩, small⟩
    have reads : digits ≠ [] ∧ digits.all Char.isDigit ∧ numberOf digits ≤ limit :=
      ⟨some_digit, List.all_eq_true.mpr all, small⟩
    cases signed with
    | none =>
      have bare : digits.head? ≠ some '+' := fun plus => nomatch all '+' (List.mem_of_mem_head? plus)
      rw [List.nil_append, readNatural?_of_bare bare, if_pos reads]
    | plus => exact if_pos reads

end Counts

namespace Validator

variable {surroundings : Surroundings} {field : String} {record : Record} {arguments : List String}

/-! ### Arguments that a rule cannot do without -/

/-- An argument is a count that is not too large. -/
def IsCount (limit : Nat) (argument : String) : Prop :=
  ∃ n ≤ limit, CountText n (Text.trim argument.toList)

/-- An argument is a number. -/
def IsNumber (argument : String) : Prop :=
  ∃ literal, LiteralText Char.isDigit literal (Text.trim argument.toList)

/-- An argument is a pattern. -/
def IsPattern (argument : String) : Prop := ∃ found, patternArgument? argument = some found

/-- There is a first argument, and it is as it has to be. -/
def FirstIs (P : String → Prop) (arguments : List String) : Prop := ∃ a ∈ arguments.head?, P a

/-- The arguments without which a rule accepts no field. Most rules need none. -/
def HasArguments (validator : Validator) (arguments : List String) : Prop :=
  match validator with
  | equalsField => arguments ≠ []
  | exactLength => FirstIs (IsCount countMax) arguments
  | maxNumeric | minNumeric => FirstIs IsNumber arguments
  | minAge => FirstIs (IsCount 4294967295) arguments
  | pattern => FirstIs IsPattern arguments
  | _ => True

/-- The first argument is read iff it is what its reader takes. -/
lemma isSome_bind_head?_iff {α : Type} {read? : String → Option α} {P : String → Prop}
    (reads : ∀ a, (∃ x, read? a = some x) ↔ P a) : (arguments.head?.bind read?).isSome ↔ FirstIs P arguments := by
  simp only [FirstIs, Option.isSome_iff_exists, Option.bind_eq_some_iff, ← reads]
  constructor
  · rintro ⟨x, a, first, read⟩
    exact ⟨a, first, x, read⟩
  · rintro ⟨a, first, x, read⟩
    exact ⟨x, a, first, read⟩

lemma isSome_countArgument?_iff {limit : Nat} :
    (countArgument? limit arguments).isSome ↔ FirstIs (IsCount limit) arguments := by
  refine isSome_bind_head?_iff fun a => exists_congr fun n => ?_
  rw [readNatural?_eq_some_iff, and_comm]

lemma isSome_numberArgument?_iff : (numberArgument? arguments).isSome ↔ FirstIs IsNumber arguments := by
  refine isSome_bind_head?_iff fun a => ?_
  simp only [Shape.number?_eq_some_iff]
  constructor
  · rintro ⟨_, literal, written, -⟩
    exact ⟨literal, written⟩
  · rintro ⟨literal, written⟩
    exact ⟨_, literal, written, rfl⟩

lemma isSome_patternArgument?_iff :
    (arguments.head?.bind patternArgument?).isSome ↔ FirstIs IsPattern arguments :=
  isSome_bind_head?_iff fun _ => Iff.rfl

/-- Without its argument a rule refuses every field, whatever its value. -/
lemma check_of_not_hasArguments (surroundings : Surroundings) {validator : Validator}
    (lacking : ¬ validator.HasArguments arguments) (field : String) (record : Record) :
    validator.check surroundings field record arguments = .ok false := by
  cases validator with
  | equalsField =>
    rw [not_not.mp lacking]
    rfl
  | exactLength | minAge =>
    rw [check, Option.not_isSome_iff_eq_none.mp (mt isSome_countArgument?_iff.mp lacking)]
    rfl
  | maxNumeric | minNumeric =>
    rw [check, Option.not_isSome_iff_eq_none.mp (mt isSome_numberArgument?_iff.mp lacking)]
    rfl
  | pattern =>
    rw [check, matchesPattern, Option.not_isSome_iff_eq_none.mp (mt isSome_patternArgument?_iff.mp lacking)]
  | _ => exact absurd trivial lacking

/-! ### Missing fields -/

/-- With its argument a rule accepts a missing field. -/
lemma check_of_missing (surroundings : Surroundings) {validator : Validator}
    (value_rule : validator.checksPresence = false) (served : validator.HasArguments arguments)
    (missing : record.get? field = none) : validator.check surroundings field record arguments = .ok true := by
  cases validator with
  | equalsField =>
    obtain ⟨other, rest, rfl⟩ := List.exists_cons_of_ne_nil served
    rw [check, missing]
    rfl
  | exactLength | minAge =>
    obtain ⟨n, read⟩ := Option.isSome_iff_exists.mp (isSome_countArgument?_iff.mpr served)
    rw [check, missing, read]
    rfl
  | maxNumeric | minNumeric =>
    obtain ⟨x, read⟩ := Option.isSome_iff_exists.mp (isSome_numberArgument?_iff.mpr served)
    rw [check, missing, read]
    rfl
  | pattern =>
    obtain ⟨found, read⟩ := Option.isSome_iff_exists.mp (isSome_patternArgument?_iff.mpr served)
    rw [check, missing, matchesPattern, read]
    rfl
  | required | requiredFile => cases value_rule
  | _ => rw [check, missing] <;> rfl

lemma check_presence_of_missing (surroundings : Surroundings) {validator : Validator}
    (presence : validator.checksPresence = true) (missing : record.get? field = none) :
    validator.check surroundings field record arguments = .ok false := by
  cases validator with
  | required | requiredFile =>
    rw [check, missing]
    rfl
  | _ => cases presence

/-- **Missing fields.** Every rule answers for a field that a record does not have. It
accepts it iff it is not one of the two for presence and has the argument that it cannot do
without. -/
theorem missing_accepted_iff (surroundings : Surroundings) (validator : Validator) (arguments : List String)
    (missing : record.get? field = none) :
    ∃ accepted, validator.check surroundings field record arguments = .ok accepted ∧
      (accepted = true ↔ validator.checksPresence = false ∧ validator.HasArguments arguments) := by
  cases presence : validator.checksPresence with
  | true => exact ⟨false, check_presence_of_missing surroundings presence missing, nofun, nofun⟩
  | false =>
    by_cases served : validator.HasArguments arguments
    · exact ⟨true, check_of_missing surroundings presence served missing, fun _ => ⟨rfl, served⟩, fun _ => rfl⟩
    · exact ⟨false, check_of_not_hasArguments surroundings served field record, nofun,
        fun accepted => absurd accepted.2 served⟩

/-- An exact length that is a count and one that is none, for a missing field. -/
theorem missing_accepted_iff_count :
    let record : Record := [("g", .null)]
    record.get? "f" = none ∧ exactLength.check .newYear "f" record [" +8"] = .ok true ∧
      exactLength.check .newYear "f" record ["-8"] = .ok false := by
  intro record
  have missing : record.get? "f" = none := rfl
  obtain ⟨accepted, answer, accepted_iff⟩ := missing_accepted_iff .newYear exactLength [" +8"] missing
  obtain ⟨refused, answer', refused_iff⟩ := missing_accepted_iff .newYear exactLength ["-8"] missing
  have count : FirstIs (IsCount countMax) [" +8"] := isSome_countArgument?_iff.mp (by decide +kernel)
  have no_count : ¬ FirstIs (IsCount countMax) ["-8"] := mt isSome_countArgument?_iff.mpr (by decide +kernel)
  refine ⟨missing, ?_, ?_⟩
  · rw [answer, accepted_iff.mpr ⟨rfl, count⟩]
  · rw [answer', Bool.eq_false_iff.mpr fun passed => no_count (refused_iff.mp passed).2]

/-- The six rules that look at their first argument first, and four of their kind that do
not. -/
theorem not_missing_accepted :
    ((∀ validator ∈ [equalsField, exactLength, maxNumeric, minAge, minNumeric, pattern],
        validator.check .newYear "f" [] [] = .ok false) ∧
      ∀ validator ∈ [endsWith, maxLength, minLength, startsWith],
        validator.check .newYear "f" [] [] = .ok true) ∧
      ¬ ∀ (surroundings : Surroundings) (validator : Validator) (field : String) (record : Record)
          (arguments : List String), validator.name ≠ "required" → validator.name ≠ "requiredfile" →
        record.get? field = none → validator.check surroundings field record arguments = .ok true := by
  have refused : ∀ validator ∈ [equalsField, exactLength, maxNumeric, minAge, minNumeric, pattern],
      validator.check .newYear "f" [] [] = .ok false := by
    simp only [List.forall_mem_cons]
    exact ⟨rfl, rfl, rfl, rfl, rfl, rfl, nofun⟩
  refine ⟨⟨refused, ?_⟩, fun safe => ?_⟩
  · simp only [List.forall_mem_cons]
    exact ⟨rfl, rfl, rfl, rfl, nofun⟩
  · have passed := safe .newYear exactLength "f" [] [] (by decide) (by decide) rfl
    rw [refused exactLength (by decide)] at passed
    cases passed

end Validator

end RecordRules
