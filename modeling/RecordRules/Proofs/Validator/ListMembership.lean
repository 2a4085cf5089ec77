/-
Lists of accepted and of refused texts.

A text is trimmed and brought to lower case before it is looked for among the arguments,
which are compared as they are.

* `Validator.isListed_iff`: when a text is found;
* `Validator.HonoursList`: every value that is written like an argument is found;
* `Validator.inList_or_notInList`: one of the two rules passes and the other fails, by
  the lower case of the value; a list is honoured iff it has its arguments in lower case.
-/
import RecordRules.Proofs.Text.Trimming
import RecordRules.Validator.Basic

namespace RecordRules.Validator

variable {arguments : List String}

lemma isListed_iff {s : List Char} :
    isListed arguments s = true ↔ String.ofList (Text.lower (Text.trim s)) ∈ arguments := by
  rw [isListed, List.contains_iff_mem]

/-- Both rules on a value with a text: they look for the text, and answer each for one
outcome. -/
lemma check_list_of_text (surroundings : Surroundings) (arguments : List String) {field : String} {record : Record}
    {value : Json} {s : List Char} (found : record.get? field = some value) (text : textOf? value = some s) :
    inList.check surroundings field record arguments = .ok (isListed arguments s) ∧
      notInList.check surroundings field record arguments = .ok (!isListed arguments s) := by
  constructor
  · rw [check, found, onText_of_text text]
  · rw [check, found, onText_of_text text]

/-- A list is honoured: a value that is written like one of the arguments, but for white
space around it, passes the rule for accepted texts and fails the one for refused texts. -/
def HonoursList (arguments : List String) : Prop :=
  ∀ (surroundings : Surroundings) (field : String) (record : Record) (value : Json) (s : List Char),
    record.get? field = some value → textOf? value = some s → String.ofList (Text.trim s) ∈ arguments →
      inList.check surroundings field record arguments = .ok true ∧
        notInList.check surroundings field record arguments = .ok false

/-- **Lists of texts.** On a value with a text, exactly one of the two rules passes: the
one for accepted texts iff the trimmed text in lower case is an argument. A list is
honoured iff it has every argument, if that has no white space around it, in lower case
as well. -/
theorem inList_or_notInList (arguments : List String) :
    (∀ (surroundings : Surroundings) (field : String) (record : Record) (value : Json) (s : List Char),
      record.get? field = some value → textOf? value = some s →
        ∃ listed : Bool, inList.check surroundings field record arguments = .ok listed ∧
          notInList.check surroundings field record arguments = .ok (!listed) ∧
          (listed = true ↔ String.ofList (Text.lower (Text.trim s)) ∈ arguments)) ∧
      (HonoursList arguments ↔
        ∀ a ∈ arguments, Text.trim a.toList = a.toList → Text.lowerString a ∈ arguments) := by
  constructor
  · intro surroundings field record value s found text
    obtain ⟨accepts, refuses⟩ := check_list_of_text surroundings arguments found text
    exact ⟨isListed arguments s, accepts, refuses, isListed_iff⟩
  · constructor
    · intro honoured a mem trimmed
      have same : String.ofList (Text.trim a.toList) = a := by rw [trimmed, String.ofList_toList]
      rw [← same] at mem
      have found : Keyed.get? [("a", Json.string a)] "a" = some (.string a) := rfl
      have passed := (honoured .newYear "a" _ (.string a) a.toList found rfl mem).1
      rw [(check_list_of_text _ _ found rfl).1, Except.ok.injEq, isListed_iff, trimmed] at passed
      exact passed
    · intro lower surroundings field record value s found text mem
      obtain ⟨accepts, refuses⟩ := check_list_of_text surroundings arguments found text
      have listed : isListed arguments s = true := by
        have trimmed : Text.trim (String.ofList (Text.trim s)).toList = (String.ofList (Text.trim s)).toList := by
          rw [String.toList_ofList, Text.trim_trim]
        have folded := lower _ mem trimmed
        rw [Text.lowerString, String.toList_ofList] at folded
        exact isListed_iff.mpr folded
      rw [accepts, refuses, listed]
      exact ⟨rfl, rfl⟩

/-- A value in capitals between blanks, and a list in lower case. -/
theorem inList_or_notInList_lower :
    let colours := ["red", "light green"]
    inList.check .newYear "f" [("f", .string " Light GREEN\n")] colours = .ok true ∧
      notInList.check .newYear "f" [("f", .string " Light GREEN\n")] colours = .ok false ∧
      HonoursList colours := by
  intro colours
  obtain ⟨rules, honoured_iff⟩ := inList_or_notInList colours
  obtain ⟨listed, accepts, refuses, listed_iff⟩ :=
    rules .newYear "f" [("f", .string " Light GREEN\n")] _ " Light GREEN\n".toList rfl rfl
  have is_listed : listed = true := listed_iff.mpr (by decide +kernel)
  rw [is_listed] at accepts refuses
  exact ⟨accepts, refuses, honoured_iff.mpr (by decide +kernel)⟩

/-- No value is found that is written like an argument with a capital. -/
theorem not_honoursList :
    inList.check .newYear "f" [("f", .string "Red")] ["Red"] = .ok false ∧
      notInList.check .newYear "f" [("f", .string "Red")] ["Red"] = .ok true ∧
      ¬ ∀ arguments, HonoursList arguments := by
  have found : Keyed.get? [("f", Json.string "Red")] "f" = some (.string "Red") := rfl
  have text : textOf? (.string "Red") = some "Red".toList := rfl
  have missed : isListed ["Red"] "Red".toList = false := by decide +kernel
  obtain ⟨accepts, refuses⟩ := check_list_of_text .newYear ["Red"] found text
  rw [missed] at accepts refuses
  refine ⟨accepts, refuses, fun all => ?_⟩
  have passed := (all ["Red"] .newYear "f" _ _ _ found text (by decide +kernel)).1
  rw [accepts] at passed
  cases passed

end RecordRules.Validator
