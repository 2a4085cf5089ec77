/-
The words of a text between spaces.

* `spaceWords`: the words; `spaceWords_append_space` says that a space divides them, and
  `exists_of_mem_spaceWords` where a word stands in a text with spaces at both ends;
* `intercalate_append`: parts joined by a separator, in two portions;
* `SinglySpaced`: a text with no more than one space between its words; it stays so when
  parts of it are left out (`SinglySpaced.of_sublist`);
* `SinglySpaced.trim_eq`: trimmed, such a text is its words joined by single spaces.
-/
import RecordRules.Proofs.Text.Trimming

namespace RecordRules.Text

variable {s t w : List Char} {parts others : List (List Char)}

/-! ### Words -/

lemma splitOn_cons_self (sep : Char) (s : List Char) : (sep :: s).splitOn sep = [] :: s.splitOn sep :=
  List.splitOn_append_cons_self [] s

lemma splitOn_cons_of_ne {sep c : Char} (other : c ≠ sep) (s : List Char) :
    (c :: s).splitOn sep = (s.splitOn sep).modifyHead (List.cons c) := by
  rw [List.splitOn_cons_eq_if_modifyHead, if_neg (by simpa using other)]

/-- The words of a text: the parts between its spaces that are not empty. -/
def spaceWords (s : List Char) : List (List Char) := (s.splitOn ' ').filter (· ≠ [])

lemma mem_spaceWords : w ∈ spaceWords s ↔ w ∈ s.splitOn ' ' ∧ w ≠ [] := by
  rw [spaceWords, List.mem_filter, decide_eq_true_eq]

lemma spaceWords_append_space (s t : List Char) : spaceWords (s ++ ' ' :: t) = spaceWords s ++ spaceWords t := by
  rw [spaceWords, List.splitOn_append_cons_self, List.filter_append, spaceWords, spaceWords]

lemma spaceWords_cons_space (s : List Char) : spaceWords (' ' :: s) = spaceWords s :=
  spaceWords_append_space [] s

/-- A character before the first word of a text makes that word longer. -/
lemma exists_spaceWords_cons {d : Char} (first : d ≠ ' ') (s : List Char) :
    ∃ w ws, spaceWords (d :: s) = (d :: w) :: ws ∧
      ∀ c, c ≠ ' ' → spaceWords (c :: d :: s) = (c :: d :: w) :: ws := by
  obtain ⟨w, rest, divided⟩ := List.exists_cons_of_ne_nil (List.splitOn_ne_nil ' ' s)
  refine ⟨w, rest.filter (· ≠ []), ?_, fun c other => ?_⟩
  · rw [spaceWords, splitOn_cons_of_ne first, divided]
    simp
  · rw [spaceWords, splitOn_cons_of_ne other, splitOn_cons_of_ne first, divided]
    simp

/-- A character before a space is a word. -/
lemma spaceWords_cons_cons_space {c : Char} (other : c ≠ ' ') (s : List Char) :
    spaceWords (c :: ' ' :: s) = [c] :: spaceWords s := by
  have alone : spaceWords [c] = [[c]] := by
    rw [spaceWords, splitOn_cons_of_ne other]
    rfl
  rw [← List.singleton_append, spaceWords_append_space, alone, List.singleton_append]

lemma spaceWords_dropWhile_isBlank (blanks : ∀ c ∈ s, isBlank c = true → c = ' ') :
    spaceWords (s.dropWhile isBlank) = spaceWords s := by
  induction s with
  | nil => rfl
  | cons c rest ih =>
    obtain ⟨first, others⟩ := List.forall_mem_cons.mp blanks
    by_cases blank : isBlank c = true
    · rw [List.dropWhile_cons_of_pos blank, ih others, first blank, spaceWords_cons_space]
    · rw [List.dropWhile_cons_of_neg blank]

/-- A part of a text has characters of the text, and not the separator. -/
lemma of_mem_splitOn {sep : Char} (mem : w ∈ s.splitOn sep) : sep ∉ w ∧ ∀ c ∈ w, c ∈ s := by
  induction s generalizing w with
  | nil =>
    rw [List.splitOn_nil, List.mem_singleton] at mem
    rw [mem]
    exact ⟨List.not_mem_nil, nofun⟩
  | cons d s ih =>
    by_cases here : d = sep
    · rw [here, splitOn_cons_self] at mem
      rcases List.mem_cons.mp mem with rfl | later
      · exact ⟨List.not_mem_nil, nofun⟩
      · exact ⟨(ih later).1, fun c inside => List.mem_cons_of_mem d ((ih later).2 c inside)⟩
    · obtain ⟨first, rest, divided⟩ := List.exists_cons_of_ne_nil (List.splitOn_ne_nil sep s)
      rw [splitOn_cons_of_ne here, divided] at mem
      rw [divided] at ih
      rcases List.mem_cons.mp mem with rfl | later
      · obtain ⟨outside, inside⟩ := ih List.mem_cons_self
        refine ⟨?_, List.forall_mem_cons.mpr ⟨List.mem_cons_self, fun c there => ?_⟩⟩
        · rw [List.mem_cons, not_or]
          exact ⟨Ne.symm here, outside⟩
        · exact List.mem_cons_of_mem d (inside c there)
      · obtain ⟨outside, inside⟩ := ih (List.mem_cons_of_mem first later)
        exact ⟨outside, fun c there => List.mem_cons_of_mem d (inside c there)⟩

/-! ### Parts joined -/

lemma intercalate_append {sep : List Char} (some_parts : parts ≠ []) (some_others : others ≠ []) :
    sep.intercalate (parts ++ others) = sep.intercalate parts ++ sep ++ sep.intercalate others := by
  induction parts with
  | nil => exact absurd rfl some_parts
  | cons first rest ih =>
    cases rest with
    | nil => rw [List.singleton_append, List.intercalate_cons_of_ne_nil some_others, List.intercalate_singleton]
    | cons second rest =>
      have more := ih (List.cons_ne_nil second rest)
      rw [List.cons_append] at more
      rw [List.cons_append, List.cons_append, List.intercalate_cons_cons, List.intercalate_cons_cons, more]
      simp only [List.append_assoc]

/-- In a text with spaces at both ends every word stands between two of them. -/
lemma exists_of_mem_spaceWords (starts : (s.splitOn ' ').head? = some []) (ends : (s.splitOn ' ').getLast? = some [])
    (mem : w ∈ spaceWords s) : ∃ a b, s = a ++ ' ' :: (w ++ ' ' :: b) := by
  obtain ⟨part, some_char⟩ := mem_spaceWords.mp mem
  obtain ⟨before, behind, divided⟩ := List.append_of_mem part
  have some_before : before ≠ [] := by
    rintro rfl
    rw [divided] at starts
    exact some_char (Option.some.inj starts)
  have some_behind : behind ≠ [] := by
    rintro rfl
    rw [divided, List.getLast?_concat] at ends
    exact some_char (Option.some.inj ends)
  refine ⟨[' '].intercalate before, [' '].intercalate behind, ?_⟩
  have joined : [' '].intercalate (s.splitOn ' ') = s := List.intercalate_splitOn ' '
  rw [divided, intercalate_append some_before (List.cons_ne_nil w behind),
    List.intercalate_cons_of_ne_nil some_behind] at joined
  rw [← joined]
  simp

/-! ### Single spaces -/

/-- No more than one space stands between the words of a text: its parts are empty ones
only before all words and behind them. -/
def SinglySpaced (s : List Char) : Prop :=
  ∃ n m, s.splitOn ' ' = List.replicate n [] ++ spaceWords s ++ List.replicate m []

/-- A text is singly spaced if its parts are words with empty ones around them, and then
these are its words. -/
lemma singlySpaced_of_eq {n m : Nat} {ws : List (List Char)} (some_chars : ∀ w ∈ ws, w ≠ [])
    (divided : s.splitOn ' ' = List.replicate n [] ++ ws ++ List.replicate m []) :
    SinglySpaced s ∧ spaceWords s = ws := by
  have no_word : ∀ k, (List.replicate k ([] : List Char)).filter (· ≠ []) = [] := by
    intro k
    rw [List.filter_eq_nil_iff]
    intro w mem
    rw [List.eq_of_mem_replicate mem]
    simp
  have words : spaceWords s = ws := by
    rw [spaceWords, divided, List.filter_append, List.filter_append, no_word, no_word, List.nil_append,
      List.append_nil, List.filter_eq_self]
    simpa using some_chars
  exact ⟨⟨n, m, by rw [words, divided]⟩, words⟩

namespace SinglySpaced

/-- With parts left out a text is still singly spaced. -/
lemma of_sublist (h : SinglySpaced s) (sub : (t.splitOn ' ').Sublist (s.splitOn ' ')) : SinglySpaced t := by
  obtain ⟨n, m, divided⟩ := h
  rw [divided] at sub
  obtain ⟨front, back, parts, front_sub, back_sub⟩ := List.sublist_append_iff.mp sub
  obtain ⟨before, middle, front_parts, before_sub, middle_sub⟩ := List.sublist_append_iff.mp front_sub
  obtain ⟨n', -, rfl⟩ := List.sublist_replicate_iff.mp before_sub
  obtain ⟨m', -, rfl⟩ := List.sublist_replicate_iff.mp back_sub
  rw [front_parts] at parts
  exact (singlySpaced_of_eq (fun w mem => (mem_spaceWords.mp (middle_sub.subset mem)).2) parts).1

lemma cons_space (h : SinglySpaced s) : SinglySpaced (' ' :: s) := by
  obtain ⟨n, m, divided⟩ := h
  refine ⟨n + 1, m, ?_⟩
  rw [splitOn_cons_self, divided, spaceWords_cons_space, List.replicate_succ, List.cons_append, List.cons_append]

lemma concat_space (h : SinglySpaced s) : SinglySpaced (s ++ [' ']) := by
  obtain ⟨n, m, divided⟩ := h
  refine ⟨n, m + 1, ?_⟩
  have no_words : spaceWords [] = [] := rfl
  rw [List.splitOn_append_cons_self, divided, spaceWords_append_space, no_words, List.append_nil,
    List.replicate_succ', List.append_assoc, List.append_assoc, List.append_assoc]
  rfl

end SinglySpaced

/-! ### Trimming -/

lemma trim_cons_space (s : List Char) : trim (' ' :: s) = trim s := rfl

lemma trim_concat_space (s : List Char) : trim (s ++ [' ']) = trim s := by
  rw [trim, trimBoth, trim, trimBoth, List.dropWhile_append]
  split
  · next none =>
    rw [List.isEmpty_iff.mp none]
    rfl
  · exact dropRightWhile_append_of_all rfl

/-- Empty parts before others add spaces only. -/
lemma trim_intercalate_replicate_append (n : Nat) (parts : List (List Char)) :
    trim ([' '].intercalate (List.replicate n [] ++ parts)) = trim ([' '].intercalate parts) := by
  induction n with
  | zero => rfl
  | succ n ih =>
    rw [List.replicate_succ, List.cons_append, ← ih]
    cases List.replicate n [] ++ parts with
    | nil => rfl
    | cons first rest => rw [List.intercalate_cons_cons, List.nil_append, List.singleton_append, trim_cons_space]

/-- Empty parts behind others add spaces only. -/
lemma trim_intercalate_append_replicate (n : Nat) (parts : List (List Char)) :
    trim ([' '].intercalate (parts ++ List.replicate n [])) = trim ([' '].intercalate parts) := by
  induction n with
  | zero => rw [List.replicate_zero, List.append_nil]
  | succ n ih =>
    rw [List.replicate_succ', ← List.append_assoc, ← ih]
    cases some_parts : parts ++ List.replicate n [] with
    | nil => rfl
    | cons first rest =>
      rw [intercalate_append (List.cons_ne_nil first rest) (List.cons_ne_nil [] []), List.intercalate_singleton,
        List.append_nil, trim_concat_space]

/-- Words without blanks are not trimmed. -/
lemma trim_intercalate {ws : List (List Char)} (words : ∀ w ∈ ws, w ≠ [] ∧ ∀ c ∈ w, isBlank c = false) :
    trim ([' '].intercalate ws) = [' '].intercalate ws := by
  refine trimBoth_eq_self ?_ ?_
  · cases ws with
    | nil => exact nofun
    | cons w rest =>
      obtain ⟨⟨some_char, no_blank⟩, -⟩ := List.forall_mem_cons.mp words
      obtain ⟨c, w, rfl⟩ := List.exists_cons_of_ne_nil some_char
      have first : ([' '].intercalate ((c :: w) :: rest)).head? = some c := by cases rest <;> simp
      intro d starts
      rw [first, Option.some.injEq] at starts
      exact starts ▸ no_blank c List.mem_cons_self
  · rcases List.eq_nil_or_concat' ws with rfl | ⟨front, w, rfl⟩
    · exact nofun
    · obtain ⟨some_char, no_blank⟩ := words w (by simp)
      have last : ([' '].intercalate (front ++ [w])).getLast? = w.getLast? := by
        cases front with
        | nil => simp
        | cons first rest =>
          rw [intercalate_append (List.cons_ne_nil first rest) (List.cons_ne_nil w []), List.intercalate_singleton,
            List.getLast?_append_of_ne_nil _ some_char]
      intro d ends
      rw [last] at ends
      exact no_blank d (List.mem_of_getLast? ends)

/-- Where all blanks of a text are spaces, its words have none. -/
lemma not_isBlank_of_mem_spaceWords (blanks : ∀ c ∈ s, isBlank c = true → c = ' ') :
    ∀ w ∈ spaceWords s, ∀ c ∈ w, isBlank c = false := by
  intro w mem c there
  obtain ⟨no_space, inside⟩ := of_mem_splitOn (mem_spaceWords.mp mem).1
  rw [← Bool.not_eq_true]
  intro blank
  exact no_space (blanks c (inside c there) blank ▸ there)

/-- **A singly spaced text is its words joined by single spaces, when it is trimmed.** -/
theorem SinglySpaced.trim_eq (h : SinglySpaced s) (no_blank : ∀ w ∈ spaceWords s, ∀ c ∈ w, isBlank c = false) :
    trim s = [' '].intercalate (spaceWords s) := by
  have words : ∀ w ∈ spaceWords s, w ≠ [] ∧ ∀ c ∈ w, isBlank c = false :=
    fun w mem => ⟨(mem_spaceWords.mp mem).2, no_blank w mem⟩
  obtain ⟨n, m, divided⟩ := h
  calc trim s
      = trim ([' '].intercalate (s.splitOn ' ')) := by rw [List.intercalate_splitOn]
    _ = trim ([' '].intercalate (List.replicate n [] ++ (spaceWords s ++ List.replicate m []))) := by
        rw [divided, List.append_assoc]
    _ = trim ([' '].intercalate (spaceWords s)) := by
        rw [trim_intercalate_replicate_append, trim_intercalate_append_replicate]
    _ = [' '].intercalate (spaceWords s) := trim_intercalate words

end RecordRules.Text
