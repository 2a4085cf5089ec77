/-
Numbers for the rules that ask for one and for those that compare it.

All of them read decimal literals. The rule for numbers takes digits of any script in
them; the rules that need the value take ASCII digits only.

* `AsciiDigits`: a text without digits of other scripts;
* `Validator.exists_literalText_of_check`: what the rule for numbers accepts is written
  as a literal;
* `Validator.check_of_unread`: what the other rules make of a text without a value;
* `Validator.numeric_read_iff`: what the rule for numbers accepts has a value iff its
  digits are ASCII digits, and this decides what the other rules make of it.
-/
import RecordRules.Proofs.Decimal.NumberText
import RecordRules.Validator.Basic

namespace RecordRules

/-- Every decimal digit of the text is an ASCII digit. -/
def AsciiDigits (s : List Char) : Prop := ∀ c ∈ s, Text.isDecimalDigit c = true → c.isDigit = true

instance (s : List Char) : Decidable (AsciiDigits s) :=
  decidable_of_iff (s.all fun c => !Text.isDecimalDigit c || c.isDigit)
    (by simp [AsciiDigits, List.all_eq_true, Bool.or_eq_true, imp_iff_not_or])

variable {s : List Char} {literal : Literal}

lemma LiteralText.asciiDigits (written : LiteralText Char.isDigit literal s) : AsciiDigits s := by
  intro c mem digit
  rcases written.isDigit_or_mark c mem with ascii | mark
  · exact ascii
  · rw [isDecimalDigit_of_mem_numberMarks mark] at digit
    cases digit

/-- A literal that is written as numbers are has no white space to trim. -/
lemma LiteralText.trim_eq (written : LiteralText Char.isDigit literal s) : Text.trim s = s := by
  have none_blank : numberMarks.all (fun d => !Text.isBlank d) = true := by decide
  refine Text.trimBoth_eq_self_of_forall fun c mem => ?_
  rcases written.isDigit_or_mark c mem with digit | mark
  · rw [← Bool.not_eq_true]
    intro blank
    rw [not_isDigit_of_isBlank blank] at digit
    cases digit
  · rw [← Bool.not_eq_true']
    exact List.all_eq_true.mp none_blank c mark

namespace Validator

variable {surroundings : Surroundings} {field : String} {record : Record} {value : Json} {arguments : List String}

/-- The text of a number is a literal in ASCII digits. -/
lemma exists_literalText_of_number {n : JsonNumber} (text : textOf? (.number n) = some s) :
    ∃ literal, LiteralText Char.isDigit literal (Text.trim s) := by
  cases text
  obtain ⟨literal, written⟩ := n.exists_literalText
  rw [written.trim_eq]
  exact ⟨literal, written⟩

lemma check_numeric_of_string (surroundings : Surroundings) {t : String}
    (found : record.get? field = some (.string t)) (arguments : List String) :
    numeric.check surroundings field record arguments = .ok (Shape.isNumeric t.toList) := by
  rw [check, found]
  exact congrArg Except.ok (onText_of_text rfl _)

/-- What the rule for numbers accepts is a literal, in digits of any script. -/
lemma exists_literalText_of_check (found : record.get? field = some value) (text : textOf? value = some s)
    (accepted : numeric.check surroundings field record arguments = .ok true) :
    ∃ literal, LiteralText Text.isDecimalDigit literal (Text.trim s) := by
  cases value with
  | null | bool | array | object => cases text
  | number n =>
    obtain ⟨literal, written⟩ := exists_literalText_of_number text
    exact ⟨literal, written.of_digits fun c _ => isDecimalDigit_of_isDigit⟩
  | string =>
    cases text
    rw [check_numeric_of_string surroundings found] at accepted
    obtain ⟨literal, read⟩ := Option.isSome_iff_exists.mp (Except.ok.inj accepted)
    exact ⟨literal, Shape.numericLiteral?_eq_some_iff.mp read⟩

/-- The rules that compare a number need its value. -/
lemma check_bounds_of_text (surroundings : Surroundings) (found : record.get? field = some value)
    (text : textOf? value = some s) (limits : List String) :
    minNumeric.check surroundings field record limits =
        .ok ((numberArgument? limits).any fun limit => (Shape.number? s).any limit.le) ∧
      maxNumeric.check surroundings field record limits =
        .ok ((numberArgument? limits).any fun limit => (Shape.number? s).any (·.le limit)) := by
  constructor
  · rw [check, found]
    simp only [onText_of_text text]
  · rw [check, found]
    simp only [onText_of_text text]

/-- The rule for finite numbers needs the value of a text, and takes every number. -/
lemma check_float_of_text (surroundings : Surroundings) (found : record.get? field = some value)
    (text : textOf? value = some s) (options : List String) :
    ∃ passes : Bool, float.check surroundings field record options = .ok passes ∧
      (passes = true ↔ (∃ n, value = .number n) ∨ (Shape.number? s).any Extended.isFinite = true) := by
  rw [check, found]
  cases value with
  | null | bool | array | object => cases text
  | number n => exact ⟨true, rfl, iff_of_true rfl (.inl ⟨n, rfl⟩)⟩
  | string =>
    refine ⟨_, rfl, ?_⟩
    rw [onText_of_text text]
    refine ⟨.inr, fun h => h.resolve_left ?_⟩
    rintro ⟨n, ⟨⟩⟩

/-- A text with digits of other scripts has no value. -/
lemma number?_eq_none_of_foreign (foreign : ¬ AsciiDigits (Text.trim s)) : Shape.number? s = none := by
  rw [Option.eq_none_iff_forall_ne_some]
  intro x read
  obtain ⟨_, written, -⟩ := Shape.number?_eq_some_iff.mp read
  exact foreign written.asciiDigits

/-- A text without a value is refused by the rules that need it. -/
lemma check_of_unread (surroundings : Surroundings) (found : record.get? field = some value)
    (text : textOf? value = some s) (not_number : ∀ n, value ≠ .number n) (unread : Shape.number? s = none)
    (options : List String) :
    float.check surroundings field record options = .ok false ∧
      minNumeric.check surroundings field record options = .ok false ∧
      maxNumeric.check surroundings field record options = .ok false := by
  obtain ⟨passes, answer, passes_iff⟩ := check_float_of_text surroundings found text options
  have fails : passes = false := by
    rw [← Bool.not_eq_true, passes_iff, unread]
    rintro (⟨n, number⟩ | finite)
    · exact not_number n number
    · cases finite
  have no_answer : (numberArgument? options).any (fun _ => false) = false := by
    cases numberArgument? options <;> rfl
  have answers := check_bounds_of_text surroundings found text options
  simp only [unread, Option.any_none, no_answer] at answers
  rw [answer, fails]
  exact ⟨rfl, answers⟩

/-- **Numbers for all the rules.** A value that the rule for numbers accepts is a literal in
ASCII digits iff all its decimal digits are ASCII digits, as those of JSON numbers are.
Then it has a value, and the rules that compare it, or that ask for a finite number,
answer by this value. Otherwise it has none, and these rules refuse it. -/
theorem numeric_read_iff {surroundings : Surroundings} {field : String} {record : Record} {value : Json}
    {s : List Char} {arguments : List String} (found : record.get? field = some value) (text : textOf? value = some s)
    (accepted : numeric.check surroundings field record arguments = .ok true) :
    ((∃ literal, LiteralText Char.isDigit literal (Text.trim s)) ↔ AsciiDigits (Text.trim s)) ∧
      (∀ n, value = .number n → AsciiDigits (Text.trim s)) ∧
      (AsciiDigits (Text.trim s) → ∃ literal, LiteralText Char.isDigit literal (Text.trim s) ∧
        Shape.number? s = some literal.nearest ∧
        (∀ options, ∃ passes : Bool, float.check surroundings field record options = .ok passes ∧
          (passes = true ↔ (∃ n, value = .number n) ∨ literal.nearest.isFinite = true)) ∧
        ∀ limits limit, numberArgument? limits = some limit →
          minNumeric.check surroundings field record limits = .ok (limit.le literal.nearest) ∧
            maxNumeric.check surroundings field record limits = .ok (literal.nearest.le limit)) ∧
      (¬ AsciiDigits (Text.trim s) → Shape.number? s = none ∧
        ∀ options, float.check surroundings field record options = .ok false ∧
          minNumeric.check surroundings field record options = .ok false ∧
          maxNumeric.check surroundings field record options = .ok false) := by
  obtain ⟨literal, written⟩ := exists_literalText_of_check found text accepted
  have of_number : ∀ n, value = .number n → AsciiDigits (Text.trim s) := by
    rintro n rfl
    obtain ⟨_, written⟩ := exists_literalText_of_number text
    exact written.asciiDigits
  refine ⟨⟨fun ⟨_, ascii⟩ => ascii.asciiDigits, fun ascii => ⟨literal, written.of_digits ascii⟩⟩,
    of_number, ?_, ?_⟩
  · intro ascii
    have read : Shape.number? s = some literal.nearest :=
      Shape.number?_eq_some_iff.mpr ⟨literal, written.of_digits ascii, rfl⟩
    refine ⟨literal, written.of_digits ascii, read, fun options => ?_, fun limits limit given => ?_⟩
    · have answer := check_float_of_text surroundings found text options
      rwa [read, Option.any_some] at answer
    · have answers := check_bounds_of_text surroundings found text limits
      rwa [given, read, Option.any_some, Option.any_some] at answers
  · intro foreign
    have unread := number?_eq_none_of_foreign foreign
    exact ⟨unread, check_of_unread surroundings found text (fun n number => foreign (of_number n number)) unread⟩

/-- A number with white space around it, a sign, no digit before the point, and an
exponent. -/
theorem numeric_read_iff_half :
    let record : Record := [("n", .string " -.5e+2\n")]
    numeric.check .newYear "n" record [] = .ok true ∧
      float.check .newYear "n" record [] = .ok true ∧
      minNumeric.check .newYear "n" record ["-50"] = .ok true ∧
      maxNumeric.check .newYear "n" record ["-50.5"] = .ok false := by
  intro record
  have accepted : numeric.check .newYear "n" record [] = .ok true := by decide +kernel
  have digits : AsciiDigits (Text.trim " -.5e+2\n".toList) := by decide +kernel
  obtain ⟨literal, -, read, finite, bounds⟩ := (numeric_read_iff rfl rfl accepted).2.2.1 digits
  let fifty : Extended := .finite ⟨true, 50 * 2 ^ 47, -47, by decide⟩
  have value : literal.nearest = fifty := Option.some.inj (read.symm.trans (by decide +kernel))
  rw [value] at finite bounds
  obtain ⟨passes, answer, passes_iff⟩ := finite []
  rw [passes_iff.mpr (.inr rfl)] at answer
  have least := (bounds ["-50"] fifty (by decide +kernel)).1
  have greatest := (bounds ["-50.5"] (.finite ⟨true, 101 * 2 ^ 46, -47, by decide⟩) (by decide +kernel)).2
  exact ⟨accepted, answer, least, greatest⟩

/-- The Arabic-Indic digit two is a number without a value. -/
theorem not_numeric_read :
    let record : Record := [("n", .string "\u0662")]
    (numeric.check .newYear "n" record [] = .ok true ∧
        (∀ literal, ¬ LiteralText Char.isDigit literal (Text.trim "\u0662".toList)) ∧
        float.check .newYear "n" record [] = .ok false ∧
        minNumeric.check .newYear "n" record ["0"] = .ok false ∧
        maxNumeric.check .newYear "n" record ["9"] = .ok false) ∧
      ¬ ∀ (surroundings : Surroundings) (field : String) (record : Record) (arguments : List String) (s : String),
        record.get? field = some (.string s) → numeric.check surroundings field record arguments = .ok true →
          ∃ x, Shape.number? s.toList = some x := by
  intro record
  have foreign : ¬ AsciiDigits (Text.trim "\u0662".toList) := by
    intro ascii
    have digit := ascii '\u0662' (by decide) isDecimalDigit_arabicTwo
    cases digit
  have written : LiteralText Text.isDecimalDigit ⟨false, ['\u0662'], none, none⟩ (Text.trim "\u0662".toList) :=
    .mk .none (.mk (List.forall_mem_singleton.mpr isDecimalDigit_arabicTwo) .none (List.cons_ne_nil _ _) .none)
  have passed : Shape.isNumeric "\u0662".toList = true := by
    rw [Shape.isNumeric, Shape.numericLiteral?_eq_some_iff.mpr written, Option.isSome_some]
  have found : record.get? "n" = some (.string "\u0662") := rfl
  have accepted : numeric.check .newYear "n" record [] = .ok true := by
    rw [check_numeric_of_string .newYear found, passed]
  have unread := number?_eq_none_of_foreign foreign
  have refused := check_of_unread .newYear found rfl (fun n number => by cases number) unread
  refine ⟨⟨accepted, fun _ ascii => foreign ascii.asciiDigits, (refused []).1, (refused ["0"]).2.1,
    (refused ["9"]).2.2⟩, fun all => ?_⟩
  obtain ⟨x, read⟩ := all .newYear "n" record [] _ found accepted
  rw [unread] at read
  cases read

end Validator

end RecordRules
