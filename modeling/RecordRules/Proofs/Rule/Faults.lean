/-
The text before a fault is not to blame.

* `Stops`: a reader reads the text in front of its rest alike, whatever stands behind the
  first character of the rest; `takeUntil_stops`, `readArguments_stops`,
  `readMessage_stops`, `readSpec_stops`: all readers of rule texts do;
* `readSpec_rest`: a spec ends at a separator or with the text;
* `readSpec_error`: a spec with a fault, and how the text before the fault is read;
* `exists_blamed`: the specs before a fault are read without it;
* `parse_faults`: reading comes to an end without dividing a character, and each fault is
  at the character that it blames, behind a text that is not faulty.
-/
import Mathlib.Data.List.TakeWhile
import RecordRules.Proofs.Rule.Bytes

namespace RecordRules.RuleText

open Text

variable {c quote : Char} {s t rest : List Char}

/-! ### One character ahead -/

lemma head?_append_congr {other : List Char} (same : other.head? = t.head?) :
    (s ++ other).head? = (s ++ t).head? := by
  rw [List.head?_append, List.head?_append, same]

lemma dropWhile_eq_self {p : Char → Bool} {other : List Char}
    (same : other.head? = (s.dropWhile p).head?) : other.dropWhile p = other := by
  cases other with
  | nil => rfl
  | cons c rest =>
    have first := List.head?_dropWhile_not p s
    rw [← same] at first
    exact List.dropWhile_cons_of_neg (by simpa using first)

/-- What is skipped is skipped as well before another text with the same first character. -/
lemma dropWhile_takeWhile_append {p : Char → Bool} {other : List Char}
    (same : other.head? = (s.dropWhile p).head?) : (s.takeWhile p ++ other).dropWhile p = other := by
  rw [List.dropWhile_append_of_pos fun _ => List.mem_takeWhile_imp, dropWhile_eq_self same]

lemma eat?_eq_none_iff : eat? c s = none ↔ s.head? ≠ some c := by
  cases s with
  | nil => simp [eat?]
  | cons d rest => simp [eat?]

/-- The text up to a delimiter is found by the delimiter alone. -/
lemma takeUntil_stops {stop : Char → Bool} (backslash : stop '\\' = false) {other : List Char}
    (same : other.head? = (takeUntil stop s).2.head?) :
    takeUntil stop ((takeUntil stop s).1 ++ other) = ((takeUntil stop s).1, other) := by
  induction s using escapeInduction with
  | nil =>
    rw [takeUntil, List.head?_nil, List.head?_eq_none_iff] at same
    rw [same]
    rfl
  | escape d s escapable ih =>
    rw [takeUntil_pair stop escapable] at same ⊢
    rw [List.cons_append, List.cons_append, takeUntil_pair stop escapable, ih same]
  | char c s plain ih =>
    rw [takeUntil_char stop plain] at same ⊢
    split at same
    · next stops =>
      obtain ⟨rest, rfl⟩ := List.head?_eq_some_iff.mp same
      have other_than : c ≠ '\\' := by
        rintro rfl
        rw [backslash] at stops
        cases stops
      rw [if_pos stops, List.nil_append, takeUntil_cons_of_stop stop stops other_than]
    · next goes =>
      have plain' : ¬ BeginsEscape c ((takeUntil stop s).1 ++ other) := by
        rwa [BeginsEscape, head?_append_congr same, takeUntil_append]
      rw [if_neg goes, List.cons_append, takeUntil_char stop plain', if_neg goes, ih same]

/-- A scan stops at a delimiter. -/
lemma takeUntil_rest {stop : Char → Bool} (h : (takeUntil stop s).2.head? = some c) : stop c = true := by
  induction s using escapeInduction with
  | nil => cases h
  | escape d s escapable ih =>
    rw [takeUntil_pair stop escapable] at h
    exact ih h
  | char d s plain ih =>
    rw [takeUntil_char stop plain] at h
    split at h
    · next stops =>
      cases h
      exact stops
    · exact ih h

lemma atSpecEnd_eq (s : List Char) : atSpecEnd s = (s.dropWhile isAsciiBlank).head?.all (· == '|') := by
  rw [atSpecEnd]
  cases s.dropWhile isAsciiBlank <;> rfl

/-- Whether a spec ends is seen before the next character that is not blank, or at it. -/
lemma atSpecEnd_append_cons (notBlank : isAsciiBlank c = false) (s t u : List Char) :
    atSpecEnd (s ++ c :: t) = atSpecEnd (s ++ c :: u) := by
  rw [atSpecEnd_eq, atSpecEnd_eq, dropWhile_append_of_not notBlank, dropWhile_append_of_not notBlank,
    List.head?_append, List.head?_append]
  rfl

/-- A quote is found as the closing one by the white space behind it and the first
character behind that, which is a separator. -/
lemma closingQuote?_stops (isQuote : quote = '\'' ∨ quote = '"') {raw after : List Char}
    (found : closingQuote? quote s = some (raw, after)) :
    atSpecEnd after = true ∧
      ∀ other : List Char, other.head? = (after.dropWhile isAsciiBlank).head? →
        closingQuote? quote (raw ++ quote :: (after.takeWhile isAsciiBlank ++ other)) =
          some (raw, after.takeWhile isAsciiBlank ++ other) := by
  have notBlank : isAsciiBlank quote = false := by rcases isQuote with rfl | rfl <;> decide
  have notBackslash : quote ≠ '\\' := by rcases isQuote with rfl | rfl <;> decide
  induction s using escapeInduction generalizing raw with
  | nil => cases found
  | escape d s escapable ih =>
    rw [closingQuote?_pair escapable] at found
    obtain ⟨⟨raw', after'⟩, later, eq⟩ := Option.map_eq_some_iff.mp found
    cases eq
    refine ⟨(ih later).1, fun other same => ?_⟩
    rw [List.cons_append, List.cons_append, closingQuote?_pair escapable, (ih later).2 other same]
    rfl
  | char c s plain ih =>
    rw [closingQuote?_char plain] at found
    split at found
    · next ends =>
      cases found
      refine ⟨ends.2, fun other same => closingQuote?_of_end notBackslash ?_⟩
      rw [atSpecEnd_eq, dropWhile_takeWhile_append same, same, ← atSpecEnd_eq]
      exact ends.2
    · next goes =>
      obtain ⟨⟨raw', after'⟩, later, eq⟩ := Option.map_eq_some_iff.mp found
      cases eq
      have whole := closingQuote?_append later
      refine ⟨(ih later).1, fun other same => ?_⟩
      have plain' : ¬ BeginsEscape c (raw' ++ quote :: (after.takeWhile isAsciiBlank ++ other)) := by
        have first : (raw' ++ quote :: (after.takeWhile isAsciiBlank ++ other)).head? = s.head? := by
          rw [whole]
          exact head?_append_congr rfl
        rwa [BeginsEscape, first, ← BeginsEscape]
      rw [whole, atSpecEnd_append_cons notBlank _ _ (after.takeWhile isAsciiBlank ++ other)] at goes
      rw [List.cons_append, closingQuote?_char plain', if_neg goes, (ih later).2 other same]
      rfl

/-! ### The readers -/

/-- A reader that leaves a rest of a text has read what stands in front of it, and reads
this alike, whatever stands behind the first character of the rest. -/
def Stops {α : Type} (read : List Char → Except Misread (α × List Char)) (s : List Char)
    (result : α) (rest : List Char) : Prop :=
  ∃ front, s = front ++ rest ∧
    ∀ other : List Char, other.head? = rest.head? → read (front ++ other) = .ok (result, other)

/-- Nothing else can stand behind a text that was read to its end. -/
lemma Stops.of_nil {α : Type} {read : List Char → Except Misread (α × List Char)} {result : α}
    (h : read s = .ok (result, [])) : Stops read s result [] := by
  refine ⟨s, (List.append_nil s).symm, fun other same => ?_⟩
  rw [List.head?_eq_none_iff.mp same, List.append_nil, h]

lemma readArguments_stops (s : List Char) :
    ∃ front, s = front ++ (readArguments s).2 ∧
      ∀ other : List Char, other.head? = (readArguments s).2.head? →
        readArguments (front ++ other) = ((readArguments s).1, other) := by
  cases colon : eat? ':' s with
  | none =>
    have none_read : ∀ {u : List Char}, eat? ':' u = none → readArguments u = ([], u) := by
      intro u h
      rw [readArguments, h]
    rw [none_read colon]
    refine ⟨[], rfl, fun other same => none_read ?_⟩
    rw [eat?_eq_none_iff] at colon ⊢
    rwa [List.nil_append, same]
  | some rest =>
    have some_read : ∀ u : List Char, readArguments (':' :: u) =
        (argumentsOf (takeUntil endsArguments u).1, (takeUntil endsArguments u).2) := fun _ => rfl
    obtain rfl := eat?_eq_some colon
    rw [some_read]
    refine ⟨':' :: (takeUntil endsArguments rest).1, ?_, fun other same => ?_⟩
    · rw [List.cons_append, takeUntil_append]
    · rw [List.cons_append, some_read, takeUntil_stops (by decide) same]

lemma readMessage_of_quote (isQuote : quote = '\'' ∨ quote = '"')
    (start : s.dropWhile isAsciiBlank = quote :: t) :
    readMessage s =
      match closingQuote? quote t with
      | some (raw, after) => .ok (unescape raw, after.dropWhile isAsciiBlank)
      | none => .error ⟨.unterminatedMessage, quote :: t⟩ := by
  rw [readMessage, start]
  exact if_pos isQuote

lemma readMessage_of_bare (bare : ¬ (c = '\'' ∨ c = '"'))
    (start : (s.dropWhile isAsciiBlank).head? = some c) :
    readMessage s =
      .ok (trim (unescape (takeUntil (· == '|') (s.dropWhile isAsciiBlank)).1),
        (takeUntil (· == '|') (s.dropWhile isAsciiBlank)).2) := by
  obtain ⟨t, start⟩ := List.head?_eq_some_iff.mp start
  rw [readMessage, start]
  exact if_neg bare

lemma readMessage_of_blank (blank : s.dropWhile isAsciiBlank = []) : readMessage s = .ok ([], []) := by
  rw [readMessage, blank]

lemma readMessage_stops {message : List Char} (read : readMessage s = .ok (message, rest)) :
    Stops readMessage s message rest ∧ ∀ c, rest.head? = some c → c = '|' := by
  have skipped := List.takeWhile_append_dropWhile (p := isAsciiBlank) (l := s)
  cases start : s.dropWhile isAsciiBlank with
  | nil =>
    rw [readMessage_of_blank start] at read
    cases read
    exact ⟨.of_nil (readMessage_of_blank start), nofun⟩
  | cons c t =>
    rw [start] at skipped
    by_cases isQuote : c = '\'' ∨ c = '"'
    · rw [readMessage_of_quote isQuote start] at read
      split at read
      · next raw after found =>
        cases read
        obtain ⟨ends, stops⟩ := closingQuote?_stops isQuote found
        rw [atSpecEnd_eq] at ends
        refine ⟨⟨s.takeWhile isAsciiBlank ++ c :: (raw ++ c :: after.takeWhile isAsciiBlank), ?_, ?_⟩, ?_⟩
        · have behind := List.takeWhile_append_dropWhile (p := isAsciiBlank) (l := after)
          simp only [List.append_assoc, List.cons_append, behind, ← closingQuote?_append found, skipped]
        · intro other same
          simp only [List.append_assoc, List.cons_append]
          rw [readMessage_of_quote isQuote (dropWhile_takeWhile_append (by rw [start]; rfl)), stops other same]
          dsimp only
          rw [dropWhile_takeWhile_append same]
        · intro d first
          rw [first] at ends
          exact beq_iff_eq.mp ends
      · cases read
    · rw [readMessage_of_bare isQuote (by rw [start]; rfl), start] at read
      cases read
      refine ⟨⟨s.takeWhile isAsciiBlank ++ (takeUntil (· == '|') (c :: t)).1, ?_, ?_⟩, ?_⟩
      · rw [List.append_assoc, takeUntil_append, skipped]
      · intro other same
        have first : ((takeUntil (· == '|') (c :: t)).1 ++ other).head? = (c :: t).head? := by
          rw [head?_append_congr same, takeUntil_append]
        have start' := dropWhile_takeWhile_append (first.trans (congrArg List.head? start.symm))
        rw [List.append_assoc, readMessage_of_bare isQuote (by rw [start', first]; rfl), start',
          takeUntil_stops (by decide) same]
      · intro d first
        have stopped := takeUntil_rest first
        exact beq_iff_eq.mp stopped

lemma readOptionalMessage_of_semicolon (s : List Char) :
    readOptionalMessage (';' :: s) = readMessage s := rfl

lemma readOptionalMessage_of_other (h : s.head? ≠ some ';') : readOptionalMessage s = .ok ([], s) := by
  rw [readOptionalMessage, eat?_eq_none_iff.mpr h]

lemma readOptionalMessage_stops (delimited : ∀ c, s.head? = some c → endsArguments c = true)
    {message : List Char} (read : readOptionalMessage s = .ok (message, rest)) :
    Stops readOptionalMessage s message rest ∧ ∀ c, rest.head? = some c → c = '|' := by
  by_cases semicolon : s.head? = some ';'
  · obtain ⟨t, rfl⟩ := List.head?_eq_some_iff.mp semicolon
    obtain ⟨⟨front, whole, stops⟩, pipe⟩ := readMessage_stops read
    exact ⟨⟨';' :: front, congrArg (';' :: ·) whole, stops⟩, pipe⟩
  · rw [readOptionalMessage_of_other semicolon] at read
    cases read
    refine ⟨⟨[], rfl, fun other same => readOptionalMessage_of_other ?_⟩, fun c first => ?_⟩
    · rwa [List.nil_append, same]
    · have ends := delimited c first
      rw [endsArguments, Bool.or_eq_true, beq_iff_eq, beq_iff_eq] at ends
      rcases ends with rfl | rfl
      · exact absurd first semicolon
      · rfl

/-- The arguments end at a delimiter that ends them, also where there are none. -/
lemma readArguments_rest (delimited : ∀ c, s.head? = some c → endsName c = true)
    (first : (readArguments s).2.head? = some c) : endsArguments c = true := by
  rw [readArguments] at first
  split at first
  · exact takeUntil_rest first
  · next none =>
    have ends := delimited c first
    rw [eat?_eq_none_iff] at none
    simp only [endsName, Bool.or_eq_true, beq_iff_eq] at ends
    rcases ends with (rfl | rfl) | rfl
    · exact absurd first none
    · rfl
    · rfl

/-- The name and the arguments of a spec. -/
lemma readHead_stops (s : List Char) :
    ∃ front, s = front ++ (readArguments (takeUntil endsName s).2).2 ∧
      ∀ other : List Char, other.head? = (readArguments (takeUntil endsName s).2).2.head? →
        (takeUntil endsName (front ++ other)).1 = (takeUntil endsName s).1 ∧
          readArguments (takeUntil endsName (front ++ other)).2 =
            ((readArguments (takeUntil endsName s).2).1, other) := by
  obtain ⟨front, whole, stops⟩ := readArguments_stops (takeUntil endsName s).2
  refine ⟨(takeUntil endsName s).1 ++ front, ?_, fun other same => ?_⟩
  · rw [List.append_assoc, ← whole, takeUntil_append]
  · have first : (front ++ other).head? = (takeUntil endsName s).2.head? := by
      rw [head?_append_congr same, ← whole]
    rw [List.append_assoc, takeUntil_stops (by decide) first]
    exact ⟨rfl, stops other same⟩

lemma head_delimited (s : List Char) {c : Char}
    (first : (readArguments (takeUntil endsName s).2).2.head? = some c) : endsArguments c = true :=
  readArguments_rest (fun _ => takeUntil_rest) first

/-- A spec ends at a separator or with the text. -/
lemma readSpec_stops {rule : Rule} (read : readSpec s = .ok (rule, rest)) :
    Stops readSpec s rule rest ∧ ∀ c, rest.head? = some c → c = '|' := by
  obtain ⟨delimiter, named, message, found, same_rule⟩ := readSpec_eq_ok_iff.mp read
  obtain ⟨front, whole, stops⟩ := readHead_stops s
  obtain ⟨⟨more, message_whole, message_stops⟩, pipe⟩ :=
    readOptionalMessage_stops (fun _ => head_delimited s) found
  refine ⟨⟨front ++ more, ?_, fun other same => ?_⟩, pipe⟩
  · rw [List.append_assoc, ← message_whole, ← whole]
  · have first : (more ++ other).head? = (readArguments (takeUntil endsName s).2).2.head? := by
      rw [head?_append_congr same, ← message_whole]
    have first_of_all : (front ++ (more ++ other)).head? = s.head? := by
      rw [head?_append_congr first, ← whole]
    obtain ⟨name, arguments⟩ := stops _ first
    rw [List.append_assoc, readSpec_eq_ok_iff, first_of_all, name, arguments]
    exact ⟨delimiter, named, message, message_stops other same, same_rule⟩

/-! ### Faults -/

/-- What a fault says of the character at its place and of the text before it. -/
def blames (before : List Char) (c : Char) : RuleTextFault → Prop
  | .misplacedDelimiter => c = ':' ∨ c = ';'
  | .emptyName => isBetweenSpecs c = false
  | .unterminatedMessage =>
    (c = '\'' ∨ c = '"') ∧
      ∃ front blanks, before = front ++ ';' :: blanks ∧ blanks.all isAsciiBlank = true
  | .noRule => False

lemma blames_append {before : List Char} {fault : RuleTextFault} (h : blames before c fault)
    (front : List Char) : blames (front ++ before) c fault := by
  cases fault with
  | misplacedDelimiter => exact h
  | emptyName => exact h
  | unterminatedMessage =>
    obtain ⟨isQuote, inner, blanks, rfl, blank⟩ := h
    exact ⟨isQuote, front ++ inner, blanks, by rw [List.append_assoc], blank⟩
  | noRule => exact h

lemma ne_pipe_of_blames {before : List Char} {fault : RuleTextFault} (h : blames before c fault) :
    c ≠ '|' := by
  rintro rfl
  cases fault with
  | misplacedDelimiter => simp [blames] at h
  | emptyName => exact absurd (show isBetweenSpecs '|' = false from h) (by decide)
  | unterminatedMessage => exact absurd h.1 (by decide)
  | noRule => exact h

/-- A message that is not closed, and how the text before its quote is read. -/
lemma readOptionalMessage_error {e : Misread} (read : readOptionalMessage s = .error e) :
    ∃ blanks quote t, s = ';' :: blanks ++ quote :: t ∧ e = ⟨.unterminatedMessage, quote :: t⟩ ∧
      blames (';' :: blanks) quote .unterminatedMessage ∧
        readOptionalMessage (';' :: blanks) = .ok ([], []) := by
  by_cases semicolon : s.head? = some ';'
  · obtain ⟨u, rfl⟩ := List.head?_eq_some_iff.mp semicolon
    rw [readOptionalMessage_of_semicolon] at read
    have skipped := List.takeWhile_append_dropWhile (p := isAsciiBlank) (l := u)
    cases start : u.dropWhile isAsciiBlank with
    | nil =>
      rw [readMessage_of_blank start] at read
      cases read
    | cons quote t =>
      rw [start] at skipped
      by_cases isQuote : quote = '\'' ∨ quote = '"'
      · rw [readMessage_of_quote isQuote start] at read
        split at read
        · cases read
        · cases read
          have blank : (u.takeWhile isAsciiBlank).all isAsciiBlank = true :=
            List.all_eq_true.mpr fun _ => List.mem_takeWhile_imp
          refine ⟨u.takeWhile isAsciiBlank, quote, t, congrArg (';' :: ·) skipped.symm, rfl,
            ⟨isQuote, [], _, rfl, blank⟩, ?_⟩
          exact readMessage_of_blank ((dropWhile_eq_nil_iff _ _).mpr blank)
      · rw [readMessage_of_bare isQuote (by rw [start]; rfl)] at read
        cases read
  · rw [readOptionalMessage_of_other semicolon] at read
    cases read

/-- A spec with a fault: the text before the fault is empty, or it is a spec of its own. -/
lemma readSpec_error {e : Misread} (between : isBetweenSpecs c = false)
    (read : readSpec (c :: s) = .error e) :
    ∃ before d t, c :: s = before ++ d :: t ∧ e.rest = d :: t ∧ blames before d e.fault ∧
      (before = [] ∨ ∃ rule, readSpec before = .ok (rule, [])) := by
  rw [readSpec] at read
  dsimp only at read
  split at read
  · next delimiter =>
    cases read
    refine ⟨[], c, s, rfl, rfl, ?_, .inl rfl⟩
    simpa [blames] using delimiter
  · next delimiter =>
    split at read
    · cases read
      exact ⟨[], c, s, rfl, rfl, between, .inl rfl⟩
    · next named =>
      split at read
      · next e' found =>
        cases read
        obtain ⟨blanks, quote, t, message, rfl, blamed, message_read⟩ := readOptionalMessage_error found
        obtain ⟨front, whole, stops⟩ := readHead_stops (c :: s)
        rw [message] at whole stops
        have first : (front ++ ';' :: blanks).head? = (c :: s).head? := by
          rw [whole]
          exact head?_append_congr rfl
        obtain ⟨name, arguments⟩ := stops (';' :: blanks) rfl
        have alone : ∃ rule, readSpec (front ++ ';' :: blanks) = .ok (rule, []) := by
          refine ⟨_, readSpec_eq_ok_iff.mpr ⟨?_, ?_, [], ?_, rfl⟩⟩
          · rwa [first]
          · rwa [name]
          · rwa [arguments]
        exact ⟨front ++ ';' :: blanks, quote, t, by rw [whole, List.append_assoc], rfl,
          blames_append blamed front, .inr alone⟩
      · cases read

/-- The specs of a text that begins with what may stand between specs. -/
lemma readSpecs_takeWhile_append {other : List Char} {rule : Rule} {rules : List Rule}
    (start : s.dropWhile isBetweenSpecs = c :: t) (first : other.head? = some c)
    (read : readSpec other = .ok (rule, rest)) (later : readSpecs rest = .ok rules) :
    readSpecs (s.takeWhile isBetweenSpecs ++ other) = .ok (rule :: rules) := by
  obtain ⟨u, rfl⟩ := List.head?_eq_some_iff.mp first
  rw [readSpecs_of_start (dropWhile_takeWhile_append (by rw [start]; rfl)), read]
  change (readSpecs rest).map _ = _
  rw [later]
  rfl

/-- **The text before a fault is not to blame**: it is read without a fault. -/
lemma exists_blamed {e : Misread} (read : readSpecs s = .error e) :
    ∃ before d t rules, s = before ++ d :: t ∧ e.rest = d :: t ∧ blames before d e.fault ∧
      readSpecs before = .ok rules := by
  -- the induction is on the specs before the one with the fault
  fun_induction readSpecs s with
  | case1 => cases read
  | case2 s c rest start e' found =>
    cases read
    have skipped := List.takeWhile_append_dropWhile (p := isBetweenSpecs) (l := s)
    obtain ⟨before, d, t, whole, same, blamed, alone⟩ := readSpec_error (head_dropWhile start) found
    rw [start, whole, ← List.append_assoc] at skipped
    cases before with
    | nil =>
      have none : (s.takeWhile isBetweenSpecs).dropWhile isBetweenSpecs = [] :=
        (dropWhile_eq_nil_iff _ _).mpr (List.all_eq_true.mpr fun _ => List.mem_takeWhile_imp)
      refine ⟨_, d, t, [], skipped.symm, same, blames_append blamed _, ?_⟩
      rw [List.append_nil, readSpecs_of_between none]
    | cons b more =>
      cases whole
      obtain ⟨rule, alone⟩ := alone.resolve_left (List.cons_ne_nil c more)
      exact ⟨_, d, t, [rule], skipped.symm, same, blames_append blamed _,
        readSpecs_takeWhile_append start rfl alone (readSpecs_of_between rfl)⟩
  | case3 s c rest start rule after found e' later ih =>
    cases read
    have skipped := List.takeWhile_append_dropWhile (p := isBetweenSpecs) (l := s)
    obtain ⟨before, d, t, rules, after_whole, same, blamed, before_read⟩ := ih later
    obtain ⟨⟨front, whole, stops⟩, pipe⟩ := readSpec_stops found
    -- the spec ends at a separator, and this is not what the fault blames
    have same_first : before.head? = after.head? := by
      cases before with
      | nil => exact absurd (pipe d (by rw [after_whole]; rfl)) (ne_pipe_of_blames blamed)
      | cons b more => rw [after_whole]; rfl
    have first : (front ++ before).head? = some c := by
      rw [head?_append_congr same_first, ← whole]
      rfl
    rw [start, whole, after_whole, ← List.append_assoc, ← List.append_assoc] at skipped
    refine ⟨_, d, t, rule :: rules, skipped.symm, same, blames_append blamed _, ?_⟩
    rw [List.append_assoc]
    exact readSpecs_takeWhile_append start first (stops before same_first) before_read
  | case4 => cases read

/-- The byte of an ASCII character is at the place behind the text before it. -/
lemma getElem?_utf8Bytes (ascii : c.toNat < 128) (s t : List Char) :
    (utf8Bytes (s ++ c :: t))[byteLength s]? = some (UInt8.ofNat c.toNat) := by
  rw [utf8Bytes_append, utf8Bytes_cons_ascii ascii, ← length_utf8Bytes,
    List.getElem?_append_right (Nat.le_refl _), Nat.sub_self, List.getElem?_cons_zero]

end RecordRules.RuleText

namespace RecordRules.Rule

open RuleText

/-- **Reading a rule text is safe, and its faults are well placed.** For every text, reading
by bytes comes to an end, and no part of the text that is cut out begins or ends inside a
character. A fault is at the boundary of a character; unless it is the missing of rules, it
is inside the text, at the delimiter that is misplaced or at the quote that opens the
message, and the text before it is read, or has no rules. -/
theorem parse_faults (kind : RuleKind) (text : String) :
    parseBytes kind text = (parse kind text).mapError .grammar ∧
      ∀ e, parse kind text = .error e →
        ∃ before after : String, before ++ after = text ∧ before.utf8ByteSize = e.position ∧
          e.position ≤ text.utf8ByteSize ∧
          (e.fault ≠ .noRule →
            e.position < text.utf8ByteSize ∧
            (e.fault = .misplacedDelimiter → ∃ c, (c = ':' ∨ c = ';') ∧
              (Text.utf8Bytes text.toList)[e.position]? = some (UInt8.ofNat c.toNat)) ∧
            (e.fault = .unterminatedMessage → ∃ quote, (quote = '\'' ∨ quote = '"') ∧
              (Text.utf8Bytes text.toList)[e.position]? = some (UInt8.ofNat quote.toNat) ∧
              ∃ front blanks, before.toList = front ++ ';' :: blanks ∧
                blanks.all Text.isAsciiBlank = true) ∧
            ((∃ rules, parse kind before = .ok rules) ∨
              parse kind before = .error ⟨before, 0, .noRule⟩)) := by
  refine ⟨parseBytes_eq kind text, fun e failed => ?_⟩
  cases read : readSpecs text.toList with
  | error misread =>
    obtain ⟨before, d, t, rules, whole, same, blamed, before_read⟩ := exists_blamed read
    rw [parse_of_misread read] at failed
    cases failed
    have before_size : (String.ofList before).utf8ByteSize = Text.byteLength before := by
      rw [← byteLength_toList, String.toList_ofList]
    have size : text.utf8ByteSize = Text.byteLength before + Text.byteLength (d :: t) := by
      rw [← byteLength_toList, whole, Text.byteLength_append]
    have some_bytes : 0 < Text.byteLength (d :: t) := by
      rw [Text.byteLength_cons]
      exact Nat.add_pos_left (Char.utf8Size_pos d) _
    have place : text.utf8ByteSize - Text.byteLength misread.rest = Text.byteLength before := by
      rw [same, size, Nat.add_sub_cancel]
    dsimp only
    rw [place, whole]
    refine ⟨String.ofList before, String.ofList (d :: t), ?_, before_size, by omega,
      fun _ => ⟨by omega, fun fault => ?_, fun fault => ?_, ?_⟩⟩
    · rw [← String.ofList_append, ← whole, String.ofList_toList]
    · rw [fault] at blamed
      refine ⟨d, blamed, getElem?_utf8Bytes ?_ before t⟩
      rcases blamed with rfl | rfl <;> decide
    · rw [fault] at blamed
      refine ⟨d, blamed.1, getElem?_utf8Bytes ?_ before t, ?_⟩
      · rcases blamed.1 with rfl | rfl <;> decide
      · rw [String.toList_ofList]
        exact blamed.2
    · have read_before : readSpecs (String.ofList before).toList = .ok rules := by
        rw [String.toList_ofList, before_read]
      by_cases none : rules = []
      · rw [none] at read_before
        exact .inr (parse_of_no_specs read_before kind)
      · exact .inl ⟨_, parse_of_specs read_before none kind⟩
  | ok specs =>
    by_cases none : specs = []
    · rw [parse_of_no_specs (none ▸ read)] at failed
      cases failed
      exact ⟨"", text, String.empty_append, rfl, Nat.zero_le _, fun fault => absurd rfl fault⟩
    · rw [parse_of_specs read none] at failed
      cases failed

/-- A message that is not closed, behind characters of two bytes: its quotes are not
followed by the end of the spec, and the text before it is a rule. -/
theorem parse_faults_of_open_message :
    let text := "inlist:é,ü ;\t'naïve' x"
    parse .validation text = .error ⟨text, 15, .unterminatedMessage⟩ ∧
      parseBytes .validation text = .error (.grammar ⟨text, 15, .unterminatedMessage⟩) ∧
      parse .validation "inlist:é,ü ;\t" = .ok [⟨"inlist", ["é", "ü"], none⟩] ∧
      ∃ before after : String, before ++ after = text ∧ before.utf8ByteSize = 15 ∧
        ((∃ rules, parse .validation before = .ok rules) ∨
          parse .validation before = .error ⟨before, 0, .noRule⟩) := by
  intro text
  have failed : parse .validation text = .error ⟨text, 15, .unterminatedMessage⟩ := by decide +kernel
  have rule : parse .validation "inlist:é,ü ;\t" = .ok [⟨"inlist", ["é", "ü"], none⟩] := by decide +kernel
  obtain ⟨same, faults⟩ := parse_faults .validation text
  obtain ⟨before, after, whole, size, -, placed⟩ := faults _ failed
  rw [failed] at same
  exact ⟨failed, same, rule, before, after, whole, size, (placed (by decide)).2.2.2⟩

end RecordRules.Rule
