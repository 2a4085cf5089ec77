/-
Backslashes in front of quotes.

* `TextFunction.Slashed`: the texts in which a backslash stands before every quote and
  every backslash, and `\0` for NUL;
* `TextFunction.unslash_flatMap_append`: slashes are put before the characters of a text,
  and taken off again, whatever follows;
* `TextFunction.flatMap_slashed_unslash`: a slashed text is that of what it stands for;
* `TextFunction.addSlashes_stripSlashes`: the two rules undo each other.
-/
import RecordRules.Proofs.Registry.Resolving

namespace RecordRules.TextFunction

variable {c : Char} {t : List Char}

/-! ### Characters -/

/-- The characters that are written with a backslash. -/
def slashedChars : List Char := ['\'', '"', '\\', '\x00']

/-- What a backslash makes of the character behind it. -/
def unslashed (d : Char) : Char := if d = '0' then '\x00' else d

/-- The characters that stand behind a backslash. -/
def slashMarks : List Char := ['\'', '"', '\\', '0']

lemma slashed_of_not_mem (outside : c ∉ slashedChars) : slashed c = [c] := by
  obtain ⟨apostrophe, quote, backslash, nul⟩ : c ≠ '\'' ∧ c ≠ '"' ∧ c ≠ '\\' ∧ c ≠ '\x00' := by
    simpa [slashedChars] using outside
  rw [slashed, if_neg (by simp [apostrophe, quote, backslash]), if_neg nul]

/-- A character is written with a backslash and the mark that stands for it. -/
lemma exists_slashed_eq : ∀ c ∈ slashedChars, ∃ d ∈ slashMarks, slashed c = ['\\', d] ∧ unslashed d = c := by
  simp only [slashedChars, List.forall_mem_cons]
  exact ⟨⟨'\'', by decide, rfl, rfl⟩, ⟨'"', by decide, rfl, rfl⟩, ⟨'\\', by decide, rfl, rfl⟩,
    ⟨'0', by decide, rfl, rfl⟩, nofun⟩

/-- A mark behind a backslash is what its character is written with. -/
lemma slashed_unslashed : ∀ d ∈ slashMarks, slashed (unslashed d) = ['\\', d] := by
  simp only [slashMarks, List.forall_mem_cons]
  exact ⟨rfl, rfl, rfl, rfl, nofun⟩

/-! ### Texts -/

lemma unslash_pair (d : Char) (rest : List Char) : unslash ('\\' :: d :: rest) = unslashed d :: unslash rest := by
  rw [unslash, if_pos rfl, unslashed]

lemma unslash_cons_of_ne (plain : c ≠ '\\') (rest : List Char) : unslash (c :: rest) = c :: unslash rest := by
  cases rest with
  | nil => simp [unslash, plain]
  | cons d rest => rw [unslash, if_neg plain]

/-- What is written for a character is read as that character, whatever follows it: no
character behind a pair is taken for a part of it. -/
lemma unslash_slashed_append (c : Char) (rest : List Char) : unslash (slashed c ++ rest) = c :: unslash rest := by
  by_cases inside : c ∈ slashedChars
  · obtain ⟨d, -, pair, same⟩ := exists_slashed_eq c inside
    rw [pair, List.cons_append, List.singleton_append, unslash_pair, same]
  · have plain : c ≠ '\\' := by
      rintro rfl
      exact inside (by decide)
    rw [slashed_of_not_mem inside, List.singleton_append, unslash_cons_of_ne plain]

lemma unslash_flatMap_append (s rest : List Char) : unslash (s.flatMap slashed ++ rest) = s ++ unslash rest := by
  induction s with
  | nil => rfl
  | cons c s ih => rw [List.flatMap_cons, List.append_assoc, unslash_slashed_append, ih, List.cons_append]

/-- A text with slashes: characters that need none, and marks behind a backslash. -/
inductive Slashed : List Char → Prop where
  | nil : Slashed []
  | plain {c : Char} {rest : List Char} (outside : c ∉ slashedChars) (behind : Slashed rest) : Slashed (c :: rest)
  | pair {d : Char} {rest : List Char} (mark : d ∈ slashMarks) (behind : Slashed rest) : Slashed ('\\' :: d :: rest)

lemma slashed_flatMap (s : List Char) : Slashed (s.flatMap slashed) := by
  induction s with
  | nil => exact .nil
  | cons c s ih =>
    rw [List.flatMap_cons]
    by_cases inside : c ∈ slashedChars
    · obtain ⟨d, mark, pair, -⟩ := exists_slashed_eq c inside
      rw [pair]
      exact .pair mark ih
    · rw [slashed_of_not_mem inside]
      exact .plain inside ih

lemma flatMap_slashed_unslash (h : Slashed t) : (unslash t).flatMap slashed = t := by
  induction h with
  | nil => rfl
  | @plain c rest outside _ ih =>
    have plain : c ≠ '\\' := by
      rintro rfl
      exact outside (by decide)
    rw [unslash_cons_of_ne plain, List.flatMap_cons, ih, slashed_of_not_mem outside, List.singleton_append]
  | @pair d rest mark _ ih =>
    rw [unslash_pair, List.flatMap_cons, ih, slashed_unslashed d mark]
    rfl

/-- **Slashes that are added are stripped again.** By the rules of these names in a new
registry, a text with slashes added is a slashed text, and with them stripped it is the text
as it was. No other slashed text becomes that text. -/
theorem addSlashes_stripSlashes (text : String) (arguments : List String) :
    ∃ add strip slashedText,
      Registry.initial.sanitizer "addslashes" arguments = .ok add ∧
      Registry.initial.sanitizer "stripslashes" arguments = .ok strip ∧
      add.apply (.string text) = .ok (.string slashedText) ∧
      strip.apply (.string slashedText) = .ok (.string text) ∧
      Slashed slashedText.toList ∧
      ∀ other : String, Slashed other.toList → strip.apply (.string other) = .ok (.string text) →
        other = slashedText := by
  let add : Resolved SanitizerRule := ⟨"addslashes", Synonym.resolveAll arguments,
    .text fun s => String.ofList (addSlashes.apply s.toList)⟩
  let strip : Resolved SanitizerRule := ⟨"stripslashes", Synonym.resolveAll arguments,
    .text fun s => String.ofList (stripSlashes.apply s.toList)⟩
  have adds : ∀ s, add.apply (.string s) = .ok (.string (String.ofList (s.toList.flatMap slashed))) := fun _ => rfl
  have strips : ∀ s, strip.apply (.string s) = .ok (.string (String.ofList (unslash s.toList))) := fun _ => rfl
  refine ⟨add, strip, _, Registry.sanitizer_initial (by decide), Registry.sanitizer_initial (by decide),
    adds text, ?_, ?_, fun other written stripped => ?_⟩
  · have undone := unslash_flatMap_append text.toList []
    rw [List.append_nil, unslash, List.append_nil] at undone
    rw [strips, String.toList_ofList, undone, String.ofList_toList]
  · rw [String.toList_ofList]
    exact slashed_flatMap text.toList
  · rw [strips, Except.ok.injEq, Json.string.injEq] at stripped
    rw [← stripped, String.toList_ofList, flatMap_slashed_unslash written, String.ofList_toList]

/-- A backslash, the digit zero and NUL: three characters that are five when slashed. -/
theorem addSlashes_stripSlashes_zero :
    ∃ strip, Registry.initial.sanitizer "stripslashes" [] = .ok strip ∧
      Slashed ['\\', '\\', '0', '\\', '0'] ∧
      strip.apply (.string (String.ofList ['\\', '\\', '0', '\\', '0'])) =
        .ok (.string (String.ofList ['\\', '0', '\x00'])) ∧
      ∀ other : String, Slashed other.toList →
        strip.apply (.string other) = .ok (.string (String.ofList ['\\', '0', '\x00'])) →
          other = String.ofList ['\\', '\\', '0', '\\', '0'] := by
  obtain ⟨add, strip, slashedText, adds, strips, added, stripped, written, only⟩ :=
    addSlashes_stripSlashes (String.ofList ['\\', '0', '\x00']) []
  have five : slashedText = String.ofList ['\\', '\\', '0', '\\', '0'] := by
    have known : Registry.initial.sanitizer "addslashes" [] =
        .ok ⟨"addslashes", [], .text fun s => String.ofList (addSlashes.apply s.toList)⟩ :=
      Registry.sanitizer_initial (by decide)
    cases known.symm.trans adds
    cases added
    rfl
  subst five
  rw [String.toList_ofList] at written
  exact ⟨strip, strips, written, stripped, only⟩

end RecordRules.TextFunction
