/-
How the readers of rule texts take escaped texts.

* `takeUntil_escape_append`, `splitCommas_escape_append`,
  `closingQuote?_escapeMessage`: a reader passes over an escaped text as a whole;
* `trimBoth_escapeWhere`: trimming and escaping do not disturb each other;
* `nameOf_eq`, `nameOf_escape`: what is left of a raw name, with nothing to trim
  when it is unescaped;
* `argumentsOf_escape`: escaped arguments with commas between them.
-/
import RecordRules.Proofs.Text.LowerCase
import RecordRules.Proofs.Rule.Scanning

namespace RecordRules.RuleText

open Text

/-! ### Characters -/

lemma isBlank_of_isEscapable {c : Char} (h : isEscapable c = true) : isBlank c = false := by
  simp only [isEscapable, Bool.or_eq_true, beq_iff_eq] at h
  rcases h with (((((rfl | rfl) | rfl) | rfl) | rfl) | rfl) | rfl <;> decide

lemma isEscapable_of_needsEscape {c : Char} (h : needsEscape c = true) : isEscapable c = true := by
  simp only [needsEscape, Bool.or_eq_true, beq_iff_eq] at h
  rcases h with (((rfl | rfl) | rfl) | rfl) | rfl <;> rfl

lemma isEscapable_of_needsMessageEscape {c : Char} (h : needsMessageEscape c = true) :
    isEscapable c = true := by
  simp only [needsMessageEscape, Bool.or_eq_true, beq_iff_eq] at h
  rcases h with rfl | rfl <;> rfl

/-- No character of the padding of names is escaped. -/
lemma needsEscape_of_isNamePadding {c : Char} (h : isNamePadding c = true) :
    needsEscape c = false := by
  by_contra escaped
  rw [Bool.not_eq_false] at escaped
  simp only [needsEscape, Bool.or_eq_true, beq_iff_eq] at escaped
  rcases escaped with (((rfl | rfl) | rfl) | rfl) | rfl <;> exact absurd h (by decide)

lemma isBlank_of_isAsciiBlank {c : Char} (h : isAsciiBlank c = true) : isBlank c = true := by
  simp only [isAsciiBlank, Bool.or_eq_true, beq_iff_eq] at h
  rcases h with (((rfl | rfl) | rfl) | rfl) | rfl <;> decide

lemma isNamePadding_of_isBlank {c : Char} (h : isBlank c = true) : isNamePadding c = true := by
  rw [isNamePadding, h]
  rfl

/-- Of what may stand between specs only the separator is escaped, and the rest
is padding. -/
lemma needsEscape_of_isBetweenSpecs {c : Char} (between : isBetweenSpecs c = true)
    (outside : isNamePadding c = false) : needsEscape c = true := by
  rw [isNamePadding, Bool.or_eq_false_iff, Bool.or_eq_false_iff] at outside
  rw [isBetweenSpecs, outside.1.2, outside.2, Bool.or_false, Bool.or_false, Bool.or_eq_true] at between
  rcases between with pipe | blank
  · rw [beq_iff_eq.mp pipe]
    rfl
  · rw [isBlank_of_isAsciiBlank blank] at outside
    exact absurd outside.1.1 (by simp)

/-- Lower case brings no padding. -/
lemma isNamePadding_of_settled {c : Char} (h : Settled c) : isNamePadding c = false := by
  have quote : ∀ d : Char, d.toNat < 'a'.toNat → (c == d) = false := by
    intro d small
    rw [beq_eq_false_iff_ne]
    rintro rfl
    exact absurd h.a_le (by omega)
  rw [isNamePadding, h.not_blank, quote '\'' (by decide), quote '"' (by decide)]
  rfl

/-! ### Escaped texts -/

section

variable {p q : Char → Bool}

lemma escapeWhere_append (s t : List Char) :
    escapeWhere p (s ++ t) = escapeWhere p s ++ escapeWhere p t := by
  induction s with
  | nil => rfl
  | cons c rest ih =>
    rw [List.cons_append, escapeWhere, escapeWhere, ih]
    split <;> rfl

lemma escapeWhere_ne_nil {s : List Char} (h : s ≠ []) : escapeWhere p s ≠ [] := by
  obtain ⟨c, rest, rfl⟩ := List.exists_cons_of_ne_nil h
  rw [escapeWhere]
  split <;> exact List.cons_ne_nil _ _

lemma escapeWhere_of_all (sub : ∀ c, q c = true → p c = false) {s : List Char}
    (all : s.all q = true) : escapeWhere p s = s := by
  induction s with
  | nil => rfl
  | cons c rest ih =>
    rw [List.all_cons, Bool.and_eq_true] at all
    rw [escapeWhere, if_neg (by simp [sub c all.1]), ih all.2]

lemma getLast?_escapeWhere (s : List Char) : (escapeWhere p s).getLast? = s.getLast? := by
  induction s with
  | nil => rfl
  | cons c rest ih =>
    have tail : (c :: escapeWhere p rest).getLast? = (c :: rest).getLast? := by
      rw [List.getLast?_cons, ih, List.getLast?_cons]
    rw [escapeWhere]
    split
    · rw [List.getLast?_cons_cons, tail]
    · exact tail

/-- Characters that are escaped stop a class that has no backslash. -/
lemma dropWhile_escapeWhere (backslash : q '\\' = false) (s : List Char) :
    (escapeWhere p s).dropWhile q = escapeWhere p (s.dropWhile fun c => q c && !p c) := by
  induction s with
  | nil => rfl
  | cons c rest ih =>
    by_cases escaped : p c = true
    · rw [List.dropWhile_cons_of_neg (by simp [escaped]), escapeWhere, if_pos escaped,
        List.dropWhile_cons_of_neg (by simp [backslash])]
    · rw [escapeWhere, if_neg escaped]
      by_cases inside : q c = true
      · rw [List.dropWhile_cons_of_pos inside, List.dropWhile_cons_of_pos (by simp [inside, escaped]),
          ih]
      · rw [List.dropWhile_cons_of_neg inside, List.dropWhile_cons_of_neg (by simp [inside]),
          escapeWhere, if_neg escaped]

lemma dropRightWhile_escapeWhere (sub : ∀ c, q c = true → p c = false) (s : List Char) :
    dropRightWhile q (escapeWhere p s) = escapeWhere p (dropRightWhile q s) := by
  obtain ⟨t, all, parts⟩ := exists_eq_dropRightWhile_append q s
  have ends : EndsOutside q (escapeWhere p (dropRightWhile q s)) := fun c last =>
    dropRightWhile_endsOutside q s c (by rw [← last, getLast?_escapeWhere])
  conv_lhs => rw [parts, escapeWhere_append, escapeWhere_of_all sub all]
  rw [dropRightWhile_append_of_all all, ends.dropRightWhile_eq]

/-- A text may be trimmed before or after it is escaped. -/
lemma trimBoth_escapeWhere (sub : ∀ c, q c = true → p c = false) (backslash : q '\\' = false)
    (s : List Char) : trimBoth q (escapeWhere p s) = escapeWhere p (trimBoth q s) := by
  have same : (fun c => q c && !p c) = q := by
    funext c
    cases inside : q c with
    | false => rfl
    | true => rw [sub c inside]; rfl
  rw [trimBoth, dropWhile_escapeWhere backslash, same, dropRightWhile_escapeWhere sub, trimBoth]

end

/-! ### Readers of escaped texts -/

/-- A scan passes over an escaped text and goes on behind it. -/
lemma takeUntil_escape_append {stop : Char → Bool}
    (sub : ∀ c, stop c = true → needsEscape c = true) (s rest : List Char) :
    takeUntil stop (escape s ++ rest) =
      (escape s ++ (takeUntil stop rest).1, (takeUntil stop rest).2) := by
  rw [escape]
  induction s with
  | nil => rfl
  | cons c s ih =>
    rw [escapeWhere]
    split
    · next escaped =>
      rw [List.cons_append, List.cons_append,
        takeUntil_pair stop (isEscapable_of_needsEscape escaped), ih]
      rfl
    · next unescaped =>
      have plain : c ≠ '\\' := by
        rintro rfl
        exact unescaped rfl
      have goes : stop c = false := by
        by_contra inside
        exact unescaped (sub c (by simpa using inside))
      rw [List.cons_append, takeUntil_cons stop plain goes, ih]
      rfl

/-- The same for escaped texts with commas between them. -/
lemma takeUntil_intercalate {stop : Char → Bool} (sub : ∀ c, stop c = true → needsEscape c = true)
    (comma : stop ',' = false) {rest : List Char} (stops : takeUntil stop rest = ([], rest))
    (pieces : List (List Char)) :
    takeUntil stop (List.intercalate [','] (pieces.map escape) ++ rest) =
      (List.intercalate [','] (pieces.map escape), rest) := by
  induction pieces with
  | nil => exact stops
  | cons s pieces ih =>
    cases pieces with
    | nil =>
      rw [List.map_singleton, List.intercalate_singleton, takeUntil_escape_append sub, stops,
        List.append_nil]
    | cons t pieces =>
      rw [List.map_cons, List.map_cons, List.intercalate_cons_cons, List.append_assoc,
        List.append_assoc, ← List.map_cons, takeUntil_escape_append sub, List.singleton_append,
        takeUntil_cons stop (by decide) comma, ih]
      simp

lemma splitCommas_escape_append (s rest : List Char) :
    splitCommas (escape s ++ rest) = (splitCommas rest).modifyHead (escape s ++ ·) := by
  rw [escape]
  induction s with
  | nil =>
    obtain ⟨piece, pieces, split⟩ := List.exists_cons_of_ne_nil (splitCommas_ne_nil rest)
    rw [escapeWhere, List.nil_append, split]
    rfl
  | cons c s ih =>
    rw [escapeWhere]
    split
    · next escaped =>
      rw [List.cons_append, List.cons_append,
        splitCommas_pair (isEscapable_of_needsEscape escaped), ih, List.modifyHead_modifyHead]
      rfl
    · next unescaped =>
      have plain : c ≠ '\\' := by
        rintro rfl
        exact unescaped rfl
      have goes : c ≠ ',' := by
        rintro rfl
        exact unescaped rfl
      rw [List.cons_append, splitCommas_cons plain goes, ih, List.modifyHead_modifyHead]
      rfl

/-- Escaped texts with commas between them are divided into these texts. -/
lemma splitCommas_intercalate {pieces : List (List Char)} (h : pieces ≠ []) :
    splitCommas (List.intercalate [','] (pieces.map escape)) = pieces.map escape := by
  induction pieces with
  | nil => exact absurd rfl h
  | cons s rest ih =>
    cases rest with
    | nil =>
      have last := splitCommas_escape_append s []
      rw [List.append_nil] at last
      rw [List.map_singleton, List.intercalate_singleton, last]
      simp [splitCommas]
    | cons t rest =>
      rw [List.map_cons, List.map_cons, List.intercalate_cons_cons, List.append_assoc,
        splitCommas_escape_append, List.singleton_append, splitCommas_comma, ← List.map_cons,
        ih (List.cons_ne_nil t rest), List.modifyHead_cons, List.append_nil]

/-- The closing quote behind an escaped message. -/
lemma closingQuote?_escapeMessage {rest : List Char} (ends : atSpecEnd rest = true)
    (s : List Char) :
    closingQuote? '\'' (escapeMessage s ++ '\'' :: rest) = some (escapeMessage s, rest) := by
  rw [escapeMessage]
  induction s with
  | nil => exact closingQuote?_of_end (by decide) ends
  | cons c s ih =>
    rw [escapeWhere]
    split
    · next escaped =>
      rw [List.cons_append, List.cons_append,
        closingQuote?_pair (isEscapable_of_needsMessageEscape escaped), ih]
      rfl
    · next unescaped =>
      have plain : c ≠ '\\' := by
        rintro rfl
        exact unescaped rfl
      have goes : c ≠ '\'' := by
        rintro rfl
        exact unescaped rfl
      rw [List.cons_append, closingQuote?_cons plain goes, ih]
      rfl

/-! ### Names and arguments -/

/-- The last character of an escaped text stands for itself. -/
lemma getLast?_unescape (s : List Char) : (unescape s).getLast? = s.getLast? := by
  fun_induction unescape s with
  | case1 => rfl
  | case2 => rfl
  | case3 c d rest escape ih => rw [List.getLast?_cons, ih, List.getLast?_cons_cons, List.getLast?_cons]
  | case4 c d rest plain ih => rw [List.getLast?_cons, ih, ← List.getLast?_cons]

lemma unescape_ne_nil {s : List Char} (h : s ≠ []) : unescape s ≠ [] := by
  fun_cases unescape s with
  | case1 => exact h
  | case2 => exact h
  | case3 => exact List.cons_ne_nil _ _
  | case4 => exact List.cons_ne_nil _ _

lemma unescape_startsOutside {s : List Char} (h : StartsOutside isBlank s) :
    StartsOutside isBlank (unescape s) := by
  fun_cases unescape s with
  | case1 => exact h
  | case2 => exact h
  | case3 c d rest escape =>
    intro e first
    cases first
    exact isBlank_of_isEscapable escape.2
  | case4 c d rest plain =>
    intro e first
    exact h e first

/-- Unescaping a text that was trimmed leaves nothing to trim. -/
lemma trim_unescape {s : List Char} (starts : StartsOutside isBlank s)
    (ends : EndsOutside isBlank s) : trim (unescape s) = unescape s :=
  trimBoth_eq_self (unescape_startsOutside starts) fun c last =>
    ends c (by rw [← getLast?_unescape, last])

/-- The text of a name before its case is settled. -/
def rawNameOf (raw : List Char) : List Char := unescape (trimBoth isNamePadding raw)

lemma rawNameOf_startsOutside (raw : List Char) : StartsOutside isBlank (rawNameOf raw) :=
  unescape_startsOutside
    ((trimBoth_startsOutside isNamePadding raw).mono fun _ => isNamePadding_of_isBlank)

lemma rawNameOf_endsOutside (raw : List Char) : EndsOutside isNamePadding (rawNameOf raw) := by
  intro c last
  rw [rawNameOf, getLast?_unescape] at last
  exact trimBoth_endsOutside isNamePadding raw c last

lemma nameOf_eq (raw : List Char) : nameOf raw = lower (rawNameOf raw) := by
  rw [nameOf, ← rawNameOf]
  have starts := (trimBoth_startsOutside isNamePadding raw).mono fun _ => isNamePadding_of_isBlank
  have ends := (trimBoth_endsOutside isNamePadding raw).mono fun _ => isNamePadding_of_isBlank
  rw [rawNameOf, trim_unescape starts ends]

/-- An escaped name is read without its padding and in lower case. -/
lemma nameOf_escape (name : List Char) : nameOf (escape name) = lower (trimBoth isNamePadding name) := by
  rw [nameOf_eq, rawNameOf, escape,
    trimBoth_escapeWhere (fun _ => needsEscape_of_isNamePadding) (by decide), ← escape,
    unescape_escape]

/-- An escaped text that is trimmed stands for itself. -/
lemma trim_unescape_trim_escape {s : List Char} (h : trim s = s) :
    trim (unescape (trim (escape s))) = s := by
  have sub : ∀ c, isBlank c = true → needsEscape c = false := fun _ blank =>
    needsEscape_of_isNamePadding (isNamePadding_of_isBlank blank)
  rw [escape, trim, trim, trimBoth_escapeWhere sub (by decide), ← escape, unescape_escape]
  rw [trim] at h
  rw [h, h]

lemma isAllBlank_escape {s : List Char} (h : isAllBlank (escape s) = true) : isAllBlank s = true := by
  rw [escape] at h
  induction s with
  | nil => rfl
  | cons c rest ih =>
    rw [escapeWhere] at h
    split at h
    · rw [isAllBlank, List.all_cons, Bool.and_eq_true] at h
      exact absurd h.1 (by decide)
    · rw [isAllBlank, List.all_cons, Bool.and_eq_true] at h ⊢
      exact ⟨h.1, ih h.2⟩

/-- Escaped arguments, which are trimmed and not just one empty text, are read
as they are. -/
lemma argumentsOf_escape {arguments : List (List Char)} (some_arguments : arguments ≠ [])
    (trimmed : ∀ a ∈ arguments, trim a = a) (not_blank : arguments ≠ [[]]) :
    argumentsOf (List.intercalate [','] (arguments.map escape)) = arguments := by
  rw [argumentsOf, splitCommas_intercalate some_arguments, List.map_map]
  have each : arguments.map ((fun piece => trim (unescape (trim piece))) ∘ escape) = arguments := by
    conv_rhs => rw [← List.map_id arguments]
    exact List.map_congr_left fun a mem => trim_unescape_trim_escape (trimmed a mem)
  rw [each, if_neg]
  -- a blank text has no comma, so it would come from one blank argument
  intro blank
  cases arguments with
  | nil => exact some_arguments rfl
  | cons a rest =>
    cases rest with
    | nil =>
      rw [List.map_singleton, List.intercalate_singleton] at blank
      have empty := (isAllBlank_iff_trim a).mp (isAllBlank_escape blank)
      rw [trimmed a List.mem_cons_self] at empty
      exact not_blank (by rw [empty])
    | cons b rest =>
      rw [List.map_cons, List.map_cons, List.intercalate_cons_cons, isAllBlank, List.all_append,
        List.all_append, Bool.and_eq_true, Bool.and_eq_true] at blank
      exact absurd blank.1.2 (by decide)

end RecordRules.RuleText
