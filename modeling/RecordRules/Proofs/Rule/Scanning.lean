/-
The readers of rule texts, one step at a time.

* `escapeInduction`: a text is a sequence of escapes and other characters;
* `takeUntil_pair`, `takeUntil_char`, `takeUntil_cons_of_stop`, and the same for
  `splitCommas` and `closingQuote?`: what a reader does with an escape, with a
  character it passes over, and with one at which it stops;
* `readSpec_eq_ok_iff`: when a spec is read, and as what;
* `readSpecs_of_between`, `readSpecs_of_start`: the specs of a text are the first
  one and those of the text after it.
-/
import Mathlib.Tactic.Lemma
import RecordRules.Rule.Reader

namespace RecordRules.RuleText

open Text

variable {c d : Char}

/-! ### Escapes -/

/-- A character in front of a text begins an escape. -/
def BeginsEscape (c : Char) (s : List Char) : Prop := c = '\\' ∧ s.head?.any isEscapable = true

/-- A text begins with an escape, or with a character that begins none, or is empty. -/
@[elab_as_elim] lemma escapeInduction {motive : List Char → Prop} (nil : motive [])
    (escape : ∀ d s, isEscapable d = true → motive s → motive ('\\' :: d :: s))
    (char : ∀ c s, ¬ BeginsEscape c s → motive s → motive (c :: s)) (s : List Char) : motive s := by
  fun_induction unescape s with
  | case1 => exact nil
  | case2 c => exact char c [] (by simp [BeginsEscape]) nil
  | case3 c d rest begins ih =>
    rw [begins.1]
    exact escape d rest begins.2 ih
  | case4 c d rest plain ih => exact char c (d :: rest) plain ih

/-! ### The next delimiter -/

section

variable (stop : Char → Bool)

lemma takeUntil_pair (h : isEscapable d = true) (s : List Char) :
    takeUntil stop ('\\' :: d :: s) =
      ('\\' :: d :: (takeUntil stop s).1, (takeUntil stop s).2) := by
  rw [takeUntil, if_pos ⟨rfl, h⟩]

lemma takeUntil_char {s : List Char} (plain : ¬ BeginsEscape c s) :
    takeUntil stop (c :: s) =
      if stop c = true then ([], c :: s) else (c :: (takeUntil stop s).1, (takeUntil stop s).2) := by
  cases s with
  | nil => rw [takeUntil, takeUntil]
  | cons e rest => rw [takeUntil, if_neg (show ¬ (c = '\\' ∧ isEscapable e = true) from plain)]

lemma takeUntil_cons (plain : c ≠ '\\') (goes : stop c = false) (s : List Char) :
    takeUntil stop (c :: s) = (c :: (takeUntil stop s).1, (takeUntil stop s).2) := by
  cases s with
  | nil => simp [takeUntil, goes]
  | cons e rest => rw [takeUntil, if_neg (by simp [plain]), if_neg (by simp [goes])]

lemma takeUntil_cons_of_stop (stops : stop c = true) (plain : c ≠ '\\') (s : List Char) :
    takeUntil stop (c :: s) = ([], c :: s) := by
  cases s with
  | nil => simp [takeUntil, stops]
  | cons e rest => rw [takeUntil, if_neg (by simp [plain]), if_pos stops]

end

lemma eat?_eq_some {s rest : List Char} (h : eat? c s = some rest) : s = c :: rest := by
  cases s with
  | nil => cases h
  | cons e t =>
    rw [eat?] at h
    split at h
    · next same =>
      cases h
      rw [same]
    · cases h

/-! ### Commas -/

lemma splitCommas_ne_nil (s : List Char) : splitCommas s ≠ [] := by
  fun_induction splitCommas s <;> simp

lemma splitCommas_pair (h : isEscapable d = true) (s : List Char) :
    splitCommas ('\\' :: d :: s) = (splitCommas s).modifyHead ('\\' :: d :: ·) := by
  rw [splitCommas, if_pos ⟨rfl, h⟩]
  obtain ⟨piece, pieces, split⟩ := List.exists_cons_of_ne_nil (splitCommas_ne_nil s)
  rw [split]
  rfl

lemma splitCommas_char {s : List Char} (plain : ¬ BeginsEscape c s) :
    splitCommas (c :: s) =
      if c = ',' then [] :: splitCommas s else (splitCommas s).modifyHead (c :: ·) := by
  cases s with
  | nil => rw [splitCommas, splitCommas, List.modifyHead_cons]
  | cons e rest =>
    rw [splitCommas, if_neg (show ¬ (c = '\\' ∧ isEscapable e = true) from plain)]
    obtain ⟨piece, pieces, split⟩ := List.exists_cons_of_ne_nil (splitCommas_ne_nil (e :: rest))
    rw [split]
    rfl

lemma splitCommas_cons (plain : c ≠ '\\') (goes : c ≠ ',') (s : List Char) :
    splitCommas (c :: s) = (splitCommas s).modifyHead (c :: ·) := by
  cases s with
  | nil => simp [splitCommas, goes]
  | cons e rest =>
    rw [splitCommas, if_neg (by simp [plain]), if_neg goes]
    obtain ⟨piece, pieces, split⟩ := List.exists_cons_of_ne_nil (splitCommas_ne_nil (e :: rest))
    rw [split]
    rfl

lemma splitCommas_comma (s : List Char) : splitCommas (',' :: s) = [] :: splitCommas s := by
  cases s with
  | nil => rfl
  | cons e rest => rw [splitCommas, if_neg (by simp), if_pos rfl]

/-- Nothing is lost at the commas. -/
lemma intercalate_splitCommas (s : List Char) : List.intercalate [','] (splitCommas s) = s := by
  fun_induction splitCommas s with
  | case1 => rfl
  | case2 => rfl
  | case3 => rfl
  | case4 c d rest escape piece pieces division ih =>
    rw [List.intercalate_cons_cons_left, List.intercalate_cons_cons_left, ← division, ih]
  | case5 c d rest escape division => exact absurd division (splitCommas_ne_nil rest)
  | case6 d rest plain ih =>
    rw [List.intercalate_cons_of_ne_nil (splitCommas_ne_nil (d :: rest)), ih]
    rfl
  | case7 c d rest plain goes piece pieces division ih =>
    rw [List.intercalate_cons_cons_left, ← division, ih]
  | case8 c d rest plain goes division => exact absurd division (splitCommas_ne_nil (d :: rest))

/-! ### Closing quotes -/

lemma closingQuote?_pair {quote : Char} (h : isEscapable d = true) (s : List Char) :
    closingQuote? quote ('\\' :: d :: s) =
      (closingQuote? quote s).map fun (raw, after) => ('\\' :: d :: raw, after) := by
  rw [closingQuote?, if_pos ⟨rfl, h⟩]

lemma closingQuote?_char {quote : Char} {s : List Char} (plain : ¬ BeginsEscape c s) :
    closingQuote? quote (c :: s) =
      if c = quote ∧ atSpecEnd s = true then some ([], s)
      else (closingQuote? quote s).map fun (raw, after) => (c :: raw, after) := by
  cases s with
  | nil => simp [closingQuote?, atSpecEnd]
  | cons e rest => rw [closingQuote?, if_neg (show ¬ (c = '\\' ∧ isEscapable e = true) from plain)]

lemma closingQuote?_cons {quote : Char} (plain : c ≠ '\\') (goes : c ≠ quote) (s : List Char) :
    closingQuote? quote (c :: s) =
      (closingQuote? quote s).map fun (raw, after) => (c :: raw, after) := by
  cases s with
  | nil => simp [closingQuote?, goes]
  | cons e rest => rw [closingQuote?, if_neg (by simp [plain]), if_neg (by simp [goes])]

lemma closingQuote?_of_end {quote : Char} (plain : quote ≠ '\\') {s : List Char}
    (ends : atSpecEnd s = true) : closingQuote? quote (quote :: s) = some ([], s) := by
  cases s with
  | nil => simp [closingQuote?]
  | cons e rest => rw [closingQuote?, if_neg (by simp [plain]), if_pos ⟨rfl, ends⟩]

/-- Nothing is lost around a closing quote. -/
lemma closingQuote?_append {quote : Char} {s raw after : List Char}
    (found : closingQuote? quote s = some (raw, after)) : s = raw ++ quote :: after := by
  fun_induction closingQuote? quote s generalizing raw after with
  | case1 => cases found
  | case2 =>
    cases found
    rfl
  | case3 => cases found
  | case4 c d rest escape ih =>
    obtain ⟨⟨raw', after'⟩, later, parts⟩ := Option.map_eq_some_iff.mp found
    cases parts
    rw [ih later]
    rfl
  | case5 c d rest unescaped ends =>
    cases found
    rw [ends.1]
    rfl
  | case6 c d rest unescaped goes ih =>
    obtain ⟨⟨raw', after'⟩, later, parts⟩ := Option.map_eq_some_iff.mp found
    cases parts
    rw [ih later]
    rfl

/-! ### Specs -/

/-- A spec is read iff it begins with no delimiter, has a name, and the message
after its arguments is read. -/
lemma readSpec_eq_ok_iff {s after : List Char} {rule : Rule} :
    readSpec s = .ok (rule, after) ↔
      ¬ (s.head?.any fun c => c == ':' || c == ';') = true ∧ nameOf (takeUntil endsName s).1 ≠ [] ∧
        ∃ message,
          readOptionalMessage (readArguments (takeUntil endsName s).2).2 = .ok (message, after) ∧
            rule = (Rule.make (String.ofList (nameOf (takeUntil endsName s).1))
              ((readArguments (takeUntil endsName s).2).1.map String.ofList)).withMessage
                (String.ofList message) := by
  rw [readSpec]
  dsimp only
  split
  · next delimiter =>
    refine ⟨fun read => ?_, fun h => absurd delimiter h.1⟩
    cases read
  · next plain =>
    split
    · next unnamed =>
      refine ⟨fun read => ?_, fun h => absurd unnamed h.2.1⟩
      cases read
    · next named =>
      cases found : readOptionalMessage (readArguments (takeUntil endsName s).2).2 with
      | error e =>
        constructor
        · intro read
          cases read
        · rintro ⟨-, -, _, read, -⟩
          cases read
      | ok parts =>
        obtain ⟨message, rest⟩ := parts
        rw [Except.ok.injEq, Prod.mk.injEq]
        constructor
        · rintro ⟨rfl, rfl⟩
          exact ⟨plain, named, message, rfl, rfl⟩
        · rintro ⟨-, -, _, read, rfl⟩
          cases read
          exact ⟨rfl, rfl⟩

lemma readSpecs_of_between {s : List Char} (h : s.dropWhile isBetweenSpecs = []) :
    readSpecs s = .ok [] := by
  rw [readSpecs]
  split
  · rfl
  · next c rest start =>
    rw [h] at start
    cases start

/-- The specs of a text: the first one, then those of the text after it. -/
lemma readSpecs_of_start {s rest : List Char} {c : Char}
    (h : s.dropWhile isBetweenSpecs = c :: rest) :
    readSpecs s =
      (readSpec (c :: rest)).bind fun (rule, after) => (readSpecs after).map (rule :: ·) := by
  rw [readSpecs]
  split
  · next start =>
    rw [h] at start
    cases start
  · next c' rest' start =>
    rw [h] at start
    cases start
    split
    · next e found =>
      rw [found]
      rfl
    · next rule after found =>
      rw [found]
      change _ = (readSpecs after).map (rule :: ·)
      cases readSpecs after <;> rfl

/-- What stands between specs may be left out at the start. -/
lemma readSpecs_congr {s t : List Char}
    (h : s.dropWhile isBetweenSpecs = t.dropWhile isBetweenSpecs) : readSpecs s = readSpecs t := by
  cases start : t.dropWhile isBetweenSpecs with
  | nil => rw [readSpecs_of_between start, readSpecs_of_between (h.trans start)]
  | cons c rest => rw [readSpecs_of_start start, readSpecs_of_start (h.trans start)]

lemma readSpecs_pipe (s : List Char) : readSpecs ('|' :: s) = readSpecs s :=
  readSpecs_congr (List.dropWhile_cons_of_pos rfl)

end RecordRules.RuleText
