/-
Rule texts joined by a separator are read one after the other.

* `trailingBackslashes`: how many backslashes a text ends with; if they are
  pairs, a separator after the text stands for itself;
* `takeUntil_append_pipe`, `closingQuote?_append_pipe`, `readSpec_append_pipe`:
  a separator and more text change nothing in how a part of a text was read;
* `readSpecs_append_pipe`: the specs of the first text, then those of the
  second;
* `parse_append_pipe`: the same for rules, with the place of every fault.
-/
import Mathlib.Algebra.Ring.Parity
import RecordRules.Proofs.Rule.Scanning

namespace RecordRules.RuleText

open Text

/-! ### Backslashes at the end -/

/-- The number of backslashes at the end of a text. -/
def trailingBackslashes (s : List Char) : Nat := (s.reverse.takeWhile (· == '\\')).length

/-- What stands before another character does not count. -/
lemma trailingBackslashes_append_cons {c : Char} (h : c ≠ '\\') (s t : List Char) :
    trailingBackslashes (s ++ c :: t) = trailingBackslashes t := by
  have stop : List.takeWhile (· == '\\') ([c] ++ s.reverse) = [] := by
    rw [List.singleton_append, List.takeWhile_cons, if_neg (by simpa using h)]
  rw [trailingBackslashes, trailingBackslashes, List.reverse_append, List.reverse_cons,
    List.append_assoc, List.takeWhile_append]
  split
  · next whole => rw [stop, List.append_nil, whole]
  · rfl

lemma trailingBackslashes_cons {c : Char} (h : c ≠ '\\') (t : List Char) :
    trailingBackslashes (c :: t) = trailingBackslashes t :=
  trailingBackslashes_append_cons h [] t

/-- A pair that is read as an escape does not change the parity. -/
lemma even_trailingBackslashes_pair (d : Char) (t : List Char) :
    Even (trailingBackslashes ('\\' :: d :: t)) ↔ Even (trailingBackslashes t) := by
  by_cases h : d = '\\'
  · subst h
    have pair : List.takeWhile (· == '\\') (['\\'] ++ ['\\']) = ['\\', '\\'] := rfl
    rw [trailingBackslashes, trailingBackslashes, List.reverse_cons, List.reverse_cons,
      List.append_assoc, List.takeWhile_append]
    split
    · next whole =>
      rw [pair, List.length_append, whole, Nat.even_add]
      simp
    · rfl
  · rw [show '\\' :: d :: t = ['\\'] ++ d :: t from rfl, trailingBackslashes_append_cons h]

/-- After a backslash that escapes nothing the text goes on as before. -/
lemma even_trailingBackslashes_tail {c d : Char} {t : List Char} (h : ¬(c = '\\' ∧ isEscapable d = true))
    (even : Even (trailingBackslashes (c :: d :: t))) : Even (trailingBackslashes (d :: t)) := by
  by_cases backslash : c = '\\'
  · have other : d ≠ '\\' := by
      rintro rfl
      exact h ⟨backslash, rfl⟩
    rw [show c :: d :: t = [c] ++ d :: t from rfl, trailingBackslashes_append_cons other] at even
    rwa [trailingBackslashes_cons other]
  · rwa [trailingBackslashes_cons backslash] at even

lemma ne_backslash_of_even {c : Char} (even : Even (trailingBackslashes [c])) : c ≠ '\\' := by
  rintro rfl
  exact absurd even (by decide)

/-! ### Scanners -/

section

variable (stop : Char → Bool)

/-- A separator and more text do not change where a scan stops. -/
lemma takeUntil_append_pipe (pipe : stop '|' = true) {a : List Char}
    (even : Even (trailingBackslashes a)) (b : List Char) :
    takeUntil stop (a ++ '|' :: b) =
      ((takeUntil stop a).1, (takeUntil stop a).2 ++ '|' :: b) := by
  have next_stop : takeUntil stop ('|' :: b) = ([], '|' :: b) :=
    takeUntil_cons_of_stop stop pipe (by decide) b
  fun_induction takeUntil stop a with
  | case1 => exact next_stop
  | case2 c stops => exact takeUntil_cons_of_stop stop stops (ne_backslash_of_even even) _
  | case3 c goes =>
    have plain := ne_backslash_of_even even
    simp only [List.cons_append, List.nil_append, takeUntil, plain, false_and, ↓reduceIte, goes,
      next_stop, Bool.false_eq_true]
  | case4 c d rest escape ih =>
    obtain ⟨rfl, escapable⟩ := escape
    have rest_read := ih ((even_trailingBackslashes_pair d rest).mp even)
    simp only [List.cons_append, takeUntil, escapable, true_and, ↓reduceIte, rest_read]
  | case5 c d rest plain stops =>
    simp only [List.cons_append, takeUntil, plain, stops, ↓reduceIte]
  | case6 c d rest plain goes ih =>
    have rest_read := ih (even_trailingBackslashes_tail plain even)
    rw [List.cons_append] at rest_read
    simp only [List.cons_append, takeUntil, plain, goes, Bool.false_eq_true, ↓reduceIte, rest_read]

/-- A scan does not stop inside a pair of backslashes. -/
lemma takeUntil_even {a : List Char}
    (even : Even (trailingBackslashes a)) : Even (trailingBackslashes (takeUntil stop a).2) := by
  fun_induction takeUntil stop a with
  | case1 => exact even
  | case2 c stops => exact even
  | case3 c goes => exact Even.zero
  | case4 c d rest escape ih =>
    rw [escape.1] at even
    exact ih ((even_trailingBackslashes_pair d rest).mp even)
  | case5 c d rest plain stops => exact even
  | case6 c d rest plain goes ih => exact ih (even_trailingBackslashes_tail plain even)

end

lemma dropWhile_append_of_not {p : Char → Bool} {c : Char} (h : p c = false) (a b : List Char) :
    (a ++ c :: b).dropWhile p = a.dropWhile p ++ c :: b := by
  induction a with
  | nil => rw [List.nil_append, List.dropWhile_cons_of_neg (by simp [h])]; rfl
  | cons d rest ih =>
    by_cases inside : p d = true
    · rw [List.cons_append, List.dropWhile_cons_of_pos inside, List.dropWhile_cons_of_pos inside, ih]
    · rw [List.cons_append, List.dropWhile_cons_of_neg inside, List.dropWhile_cons_of_neg inside]
      rfl

lemma dropWhile_even {p : Char → Bool} (backslash : p '\\' = false) {a : List Char}
    (even : Even (trailingBackslashes a)) : Even (trailingBackslashes (a.dropWhile p)) := by
  induction a with
  | nil => exact even
  | cons c rest ih =>
    by_cases inside : p c = true
    · have other : c ≠ '\\' := by
        rintro rfl
        rw [backslash] at inside
        cases inside
      rw [List.dropWhile_cons_of_pos inside]
      exact ih (by rwa [trailingBackslashes_cons other] at even)
    · rwa [List.dropWhile_cons_of_neg inside]

/-- Whether a quote ends the spec is seen before the separator or at it. -/
lemma atSpecEnd_append_pipe (a b : List Char) : atSpecEnd (a ++ '|' :: b) = atSpecEnd a := by
  rw [atSpecEnd, atSpecEnd, dropWhile_append_of_not (by decide)]
  cases a.dropWhile isAsciiBlank with
  | nil => rfl
  | cons c rest => rfl

/-- A closing quote that was found stays the closing quote. -/
lemma closingQuote?_append_pipe {quote : Char} (isQuote : quote = '\'' ∨ quote = '"')
    {a raw after : List Char} (found : closingQuote? quote a = some (raw, after)) (b : List Char) :
    closingQuote? quote (a ++ '|' :: b) = some (raw, after ++ '|' :: b) := by
  have plain : quote ≠ '\\' := by rcases isQuote with rfl | rfl <;> decide
  fun_induction closingQuote? quote a generalizing raw after with
  | case1 => cases found
  | case2 =>
    cases found
    have ends : atSpecEnd ('|' :: b) = true := rfl
    simp only [List.cons_append, List.nil_append, closingQuote?, plain, false_and, ↓reduceIte, ends,
      and_self]
  | case3 => cases found
  | case4 c d rest escape ih =>
    obtain ⟨⟨raw', after'⟩, later, parts⟩ := Option.map_eq_some_iff.mp found
    cases parts
    simp only [List.cons_append, closingQuote?, escape, and_self, ↓reduceIte, ih later, Option.map_some]
  | case5 c d rest unescaped ends =>
    cases found
    have ends' := atSpecEnd_append_pipe (d :: rest) b
    rw [ends.2, List.cons_append] at ends'
    simp only [List.cons_append, closingQuote?, ends.1, ends', and_self, ↓reduceIte]
    rw [if_neg (by rw [← ends.1]; exact unescaped)]
  | case6 c d rest unescaped goes ih =>
    obtain ⟨⟨raw', after'⟩, later, parts⟩ := Option.map_eq_some_iff.mp found
    cases parts
    have ends' := atSpecEnd_append_pipe (d :: rest) b
    have rest_read := ih later
    rw [List.cons_append] at ends' rest_read
    simp only [List.cons_append, closingQuote?, unescaped, ends', goes, ↓reduceIte, rest_read,
      Option.map_some]

/-! ### The parts of a spec -/

lemma eat?_append_pipe {c : Char} (h : '|' ≠ c) (a b : List Char) :
    eat? c (a ++ '|' :: b) = (eat? c a).map (· ++ '|' :: b) := by
  cases a with
  | nil => simp [eat?, h]
  | cons d t =>
    rw [List.cons_append, eat?, eat?]
    split <;> rfl

lemma readMessage_append_pipe {a message after : List Char}
    (even : Even (trailingBackslashes a)) (read : readMessage a = .ok (message, after))
    (b : List Char) :
    readMessage (a ++ '|' :: b) = .ok (message, after ++ '|' :: b) ∧
      Even (trailingBackslashes after) := by
  have start_even := dropWhile_even (p := isAsciiBlank) (by decide) even
  rw [readMessage] at read ⊢
  rw [dropWhile_append_of_not (by decide)]
  cases start : a.dropWhile isAsciiBlank with
  | nil =>
    rw [start] at read
    cases read
    refine ⟨?_, Even.zero⟩
    have stopped : takeUntil (· == '|') ('|' :: b) = ([], '|' :: b) :=
      takeUntil_cons_of_stop _ rfl (by decide) b
    simp only [List.nil_append, Char.reduceEq, or_self, ↓reduceIte, stopped]
    rfl
  | cons c rest =>
    rw [start] at read start_even
    simp only [List.cons_append] at read ⊢
    split at read
    · next quote =>
      split at read
      · next raw rest' found =>
        cases read
        rw [if_pos quote, closingQuote?_append_pipe quote found b]
        dsimp only
        rw [dropWhile_append_of_not (by decide)]
        refine ⟨rfl, dropWhile_even (by decide) ?_⟩
        have plain : c ≠ '\\' := by rcases quote with rfl | rfl <;> decide
        rwa [closingQuote?_append found, trailingBackslashes_cons plain,
          trailingBackslashes_append_cons plain] at start_even
      · cases read
    · next plain =>
      cases read
      have cut := takeUntil_append_pipe (· == '|') rfl start_even b
      rw [List.cons_append] at cut
      rw [if_neg plain, cut]
      exact ⟨rfl, takeUntil_even _ start_even⟩

lemma readArguments_append_pipe {a : List Char} (even : Even (trailingBackslashes a))
    (b : List Char) :
    readArguments (a ++ '|' :: b) = ((readArguments a).1, (readArguments a).2 ++ '|' :: b) ∧
      Even (trailingBackslashes (readArguments a).2) := by
  rw [readArguments, readArguments, eat?_append_pipe (by decide)]
  cases found : eat? ':' a with
  | none => exact ⟨rfl, even⟩
  | some rest =>
    rw [eat?_eq_some found, trailingBackslashes_cons (by decide)] at even
    have cut := takeUntil_append_pipe endsArguments rfl even b
    simp only [Option.map_some, cut, true_and]
    exact takeUntil_even _ even

lemma readOptionalMessage_append_pipe {a message after : List Char}
    (even : Even (trailingBackslashes a)) (read : readOptionalMessage a = .ok (message, after))
    (b : List Char) :
    readOptionalMessage (a ++ '|' :: b) = .ok (message, after ++ '|' :: b) ∧
      Even (trailingBackslashes after) := by
  rw [readOptionalMessage] at read ⊢
  rw [eat?_append_pipe (by decide)]
  cases found : eat? ';' a with
  | none =>
    rw [found] at read
    cases read
    exact ⟨rfl, even⟩
  | some rest =>
    rw [found] at read
    rw [eat?_eq_some found, trailingBackslashes_cons (by decide)] at even
    exact readMessage_append_pipe even read b

/-- A spec is read the same when a separator and more text follow. -/
lemma readSpec_append_pipe {a after : List Char} {rule : Rule} (start : a ≠ [])
    (even : Even (trailingBackslashes a)) (read : readSpec a = .ok (rule, after))
    (b : List Char) :
    readSpec (a ++ '|' :: b) = .ok (rule, after ++ '|' :: b) ∧
      Even (trailingBackslashes after) := by
  have same_head : (a ++ '|' :: b).head? = a.head? := by
    obtain ⟨c, rest, rfl⟩ := List.exists_cons_of_ne_nil start
    rfl
  have name_even := takeUntil_even endsName even
  obtain ⟨arguments_cut, arguments_even⟩ := readArguments_append_pipe name_even b
  obtain ⟨delimiter, named, message, found, rfl⟩ := readSpec_eq_ok_iff.mp read
  obtain ⟨message_cut, after_even⟩ := readOptionalMessage_append_pipe arguments_even found b
  refine ⟨readSpec_eq_ok_iff.mpr ?_, after_even⟩
  rw [same_head, takeUntil_append_pipe endsName rfl even]
  dsimp only
  rw [arguments_cut]
  exact ⟨delimiter, named, message, message_cut, rfl⟩

/-! ### Whole texts -/

/-- The specs of a text that was read, and then those of the text behind a
separator. -/
lemma readSpecs_append_pipe {a : List Char} {rules : List Rule}
    (even : Even (trailingBackslashes a)) (read : readSpecs a = .ok rules) (b : List Char) :
    readSpecs (a ++ '|' :: b) = (readSpecs b).map (rules ++ ·) := by
  -- the induction is on the specs of `a`; each leaves a rest with paired backslashes
  fun_induction readSpecs a generalizing rules with
  | case1 a start =>
    cases read
    rw [readSpecs_congr (t := b)]
    · cases readSpecs b <;> rfl
    · rw [List.dropWhile_append, start]
      exact List.dropWhile_cons_of_pos (show isBetweenSpecs '|' = true from rfl)
  | case2 => cases read
  | case3 => cases read
  | case4 a c rest start rule after found later rest_read ih =>
    cases read
    have start_even := dropWhile_even (p := isBetweenSpecs) (by decide) even
    rw [start] at start_even
    obtain ⟨spec_read, after_even⟩ :=
      readSpec_append_pipe (List.cons_ne_nil c rest) start_even found b
    have start' : (a ++ '|' :: b).dropWhile isBetweenSpecs = c :: (rest ++ '|' :: b) := by
      rw [List.dropWhile_append, start]
      rfl
    rw [readSpecs_of_start start', ← List.cons_append, spec_read]
    change (readSpecs (after ++ '|' :: b)).map (rule :: ·) = _
    rw [ih after_even rest_read]
    cases readSpecs b <;> rfl

/-! ### Places of faults -/

lemma takeUntil_suffix (stop : Char → Bool) (s : List Char) : (takeUntil stop s).2 <:+ s :=
  ⟨(takeUntil stop s).1, takeUntil_append stop s⟩

lemma readArguments_suffix (s : List Char) : (readArguments s).2 <:+ s := by
  rw [readArguments]
  split
  · next rest found =>
    rw [eat?_eq_some found]
    exact (takeUntil_suffix endsArguments rest).trans (List.suffix_cons ':' rest)
  · exact List.suffix_refl s

lemma readMessage_suffix {s message after : List Char} (read : readMessage s = .ok (message, after)) :
    after <:+ s := by
  rw [readMessage] at read
  split at read
  · cases read
    exact List.nil_suffix
  · next c rest start =>
    have tail : c :: rest <:+ s := start ▸ List.dropWhile_suffix isAsciiBlank
    refine List.IsSuffix.trans ?_ tail
    split at read
    · split at read
      · next raw after' found =>
        cases read
        rw [closingQuote?_append found]
        exact (List.dropWhile_suffix isAsciiBlank).trans ⟨c :: (raw ++ [c]), by simp⟩
      · cases read
    · cases read
      exact takeUntil_suffix (· == '|') (c :: rest)

lemma readMessage_error_suffix {s : List Char} {e : Misread} (read : readMessage s = .error e) :
    e.rest <:+ s ∧ e.fault ≠ .noRule := by
  rw [readMessage] at read
  split at read
  · cases read
  · next c rest start =>
    split at read
    · split at read
      · cases read
      · cases read
        exact ⟨start ▸ List.dropWhile_suffix isAsciiBlank, by simp⟩
    · cases read

lemma readOptionalMessage_suffix {s message after : List Char}
    (read : readOptionalMessage s = .ok (message, after)) : after <:+ s := by
  rw [readOptionalMessage] at read
  split at read
  · next rest found =>
    rw [eat?_eq_some found]
    exact (readMessage_suffix read).trans (List.suffix_cons ';' rest)
  · cases read
    exact List.suffix_refl s

lemma readOptionalMessage_error_suffix {s : List Char} {e : Misread}
    (read : readOptionalMessage s = .error e) : e.rest <:+ s ∧ e.fault ≠ .noRule := by
  rw [readOptionalMessage] at read
  split at read
  · next rest found =>
    rw [eat?_eq_some found]
    obtain ⟨tail, fault⟩ := readMessage_error_suffix read
    exact ⟨tail.trans (List.suffix_cons ';' rest), fault⟩
  · cases read

lemma readSpec_suffix {s after : List Char} {rule : Rule} (read : readSpec s = .ok (rule, after)) :
    after <:+ s := by
  obtain ⟨-, -, message, found, -⟩ := readSpec_eq_ok_iff.mp read
  exact (readOptionalMessage_suffix found).trans
    ((readArguments_suffix _).trans (takeUntil_suffix endsName s))

lemma readSpec_error_suffix {s : List Char} {e : Misread} (read : readSpec s = .error e) :
    e.rest <:+ s ∧ e.fault ≠ .noRule := by
  rw [readSpec] at read
  dsimp only at read
  split at read
  · cases read
    exact ⟨List.suffix_refl s, by simp⟩
  · split at read
    · cases read
      exact ⟨List.suffix_refl s, by simp⟩
    · split at read
      · next e' found =>
        cases read
        obtain ⟨tail, fault⟩ := readOptionalMessage_error_suffix found
        exact ⟨tail.trans ((readArguments_suffix _).trans (takeUntil_suffix endsName s)), fault⟩
      · cases read

/-- A fault is at the start of a rest of the text, and the missing of specs is
no fault of a spec. -/
lemma readSpecs_error_suffix {s : List Char} {e : Misread} (read : readSpecs s = .error e) :
    e.rest <:+ s ∧ e.fault ≠ .noRule := by
  fun_induction readSpecs s with
  | case1 => cases read
  | case2 s c rest start e' found =>
    cases read
    obtain ⟨tail, fault⟩ := readSpec_error_suffix found
    exact ⟨tail.trans (start ▸ List.dropWhile_suffix isBetweenSpecs), fault⟩
  | case3 s c rest start rule after found e' later ih =>
    cases read
    obtain ⟨tail, fault⟩ := ih later
    refine ⟨tail.trans ((readSpec_suffix found).trans ?_), fault⟩
    exact start ▸ List.dropWhile_suffix isBetweenSpecs
  | case4 => cases read

lemma byteLength_le_of_suffix {a b : List Char} (h : a <:+ b) : byteLength a ≤ byteLength b := by
  obtain ⟨front, rfl⟩ := h
  rw [byteLength_append]
  exact Nat.le_add_left _ _

/-- The bytes of a string are those of its characters. -/
lemma byteLength_toList (s : String) : byteLength s.toList = s.utf8ByteSize := by
  have bytes : ∀ l : List Char, l.utf8Encode.size = byteLength l := by
    intro l
    induction l with
    | nil => rfl
    | cons c rest ih =>
      rw [List.utf8Encode_cons, ByteArray.size_append, ih, List.utf8Encode_singleton, byteLength_cons]
      simp
  rw [← bytes, String.utf8Encode_toList]
  rfl

end RecordRules.RuleText

namespace RecordRules.Rule

open RuleText

/-! ### Rules -/

/-- The rules that are kept of the specs of a text. -/
def kept (kind : RuleKind) (specs : List Rule) : List Rule :=
  (specs.filter fun rule => !isExcluded rule).map (forKind kind)

lemma kept_append (kind : RuleKind) (specs more : List Rule) :
    kept kind (specs ++ more) = kept kind specs ++ kept kind more := by
  rw [kept, List.filter_append, List.map_append]
  rfl

/-- A text without specs is faulty at its start. -/
lemma parse_of_no_specs {text : String} (h : readSpecs text.toList = .ok []) (kind : RuleKind) :
    parse kind text = .error ⟨text, 0, .noRule⟩ := by
  rw [parse, h]

lemma parse_of_specs {text : String} {specs : List Rule} (h : readSpecs text.toList = .ok specs)
    (some_specs : specs ≠ []) (kind : RuleKind) : parse kind text = .ok (kept kind specs) := by
  obtain ⟨rule, rest, rfl⟩ := List.exists_cons_of_ne_nil some_specs
  rw [parse, h]
  rfl

lemma parse_of_misread {text : String} {e : Misread} (h : readSpecs text.toList = .error e)
    (kind : RuleKind) :
    parse kind text = .error ⟨text, text.utf8ByteSize - Text.byteLength e.rest, e.fault⟩ := by
  rw [parse, h, byteLength_toList]

/-- The rules of a text come from specs. -/
lemma exists_specs_of_parse {kind : RuleKind} {text : String} {rules : List Rule}
    (read : parse kind text = .ok rules) :
    ∃ specs, readSpecs text.toList = .ok specs ∧ specs ≠ [] ∧ kept kind specs = rules := by
  cases found : readSpecs text.toList with
  | error e =>
    rw [parse_of_misread found] at read
    cases read
  | ok specs =>
    by_cases none : specs = []
    · rw [parse_of_no_specs (none ▸ found)] at read
      cases read
    · rw [parse_of_specs found none] at read
      exact ⟨specs, rfl, none, Except.ok.inj read⟩

/-- **Rule texts compose.** A rule text that ends with pairs of backslashes, a
separator and a second text: the rules of the first, then those of the second.
If the second has no specs it adds nothing, and every other fault of it is a
fault of the whole, at its place behind the first text and the separator. -/
theorem parse_append_pipe {kind : RuleKind} {a b : String} {rules : List Rule}
    (read : parse kind a = .ok rules) (even : Even (trailingBackslashes a.toList)) :
    (∀ more, parse kind b = .ok more → parse kind (a ++ "|" ++ b) = .ok (rules ++ more)) ∧
      (∀ e, parse kind b = .error e → e.fault = .noRule →
        parse kind (a ++ "|" ++ b) = .ok rules) ∧
      ∀ e, parse kind b = .error e → e.fault ≠ .noRule →
        parse kind (a ++ "|" ++ b) =
          .error ⟨a ++ "|" ++ b, a.utf8ByteSize + 1 + e.position, e.fault⟩ := by
  obtain ⟨specs, specs_read, some_specs, rfl⟩ := exists_specs_of_parse read
  have joined := readSpecs_append_pipe even specs_read b.toList
  rw [show a.toList ++ '|' :: b.toList = (a ++ "|" ++ b).toList by simp [String.toList_append]]
    at joined
  cases read_b : readSpecs b.toList with
  | error e =>
    rw [read_b] at joined
    obtain ⟨tail, fault⟩ := readSpecs_error_suffix read_b
    -- the rest of the text from the fault on is a rest of `b`
    have within := byteLength_le_of_suffix tail
    rw [byteLength_toList] at within
    have bytes : (a ++ "|" ++ b).utf8ByteSize = a.utf8ByteSize + 1 + b.utf8ByteSize := by
      rw [String.utf8ByteSize_append, String.utf8ByteSize_append]
      rfl
    rw [parse_of_misread read_b, parse_of_misread joined, bytes, Nat.add_sub_assoc within]
    refine ⟨fun more h => (by cases h), fun e' h none => ?_, fun e' h _ => ?_⟩
    · cases h
      exact absurd none fault
    · cases h
      rfl
  | ok more =>
    rw [read_b] at joined
    rw [parse_of_specs joined (List.append_ne_nil_of_left_ne_nil some_specs more), kept_append]
    cases more with
    | nil =>
      rw [parse_of_no_specs read_b]
      refine ⟨fun more h => (by cases h), fun e h _ => ?_, fun e h some_fault => ?_⟩
      · rw [kept, kept, List.filter_nil, List.map_nil, List.append_nil]
      · cases h
        exact absurd rfl some_fault
    | cons rule rest =>
      rw [parse_of_specs read_b (List.cons_ne_nil rule rest)]
      refine ⟨fun more h => ?_, fun e h => (by cases h), fun e h => (by cases h)⟩
      rw [← Except.ok.inj h]

/-- An escaped comma and a pair of backslashes before the separator, and each of
the three cases behind it. -/
theorem parse_append_pipe_pair :
    let text := "inlist:a\\,b\\\\"
    let rules : List Rule := [⟨"inlist", ["a,b\\"], none⟩]
    parse .validation text = .ok rules ∧ Even (trailingBackslashes text.toList) ∧
      parse .validation (text ++ "|" ++ "email") = .ok (rules ++ [⟨"email", [], none⟩]) ∧
      parse .validation (text ++ "|" ++ " |") = .ok rules ∧
      parse .validation (text ++ "|" ++ "email;'né") =
        .error ⟨text ++ "|" ++ "email;'né", 20, .unterminatedMessage⟩ := by
  intro text rules
  have read : parse .validation text = .ok rules := by decide +kernel
  have even : Even (trailingBackslashes text.toList) := by decide +kernel
  have size : text.utf8ByteSize = 13 := by decide +kernel
  have email : parse .validation "email" = .ok [⟨"email", [], none⟩] := by decide +kernel
  have blank : parse .validation " |" = .error ⟨" |", 0, .noRule⟩ := by decide +kernel
  have open_message : parse .validation "email;'né" =
      .error ⟨"email;'né", 6, .unterminatedMessage⟩ := by decide +kernel
  have placed := (parse_append_pipe read even).2.2 _ open_message (by decide)
  rw [size] at placed
  exact ⟨read, even, (parse_append_pipe read even).1 _ email,
    (parse_append_pipe read even).2.1 _ blank rfl, placed⟩

end RecordRules.Rule
