/-
Rule texts without escapes and quotes are read by splitting.

* `IsPlain`: texts without backslashes and quotes;
* `takeUntil_append_of_plain`, `splitCommas_of_plain`, `unescape_of_plain`: the
  readers on such texts are `takeWhile`, `splitOn` and nothing;
* `plainRule`: the rule that a plain spec writes, by its first colon and its first
  semicolon;
* `parsePlain`: a plain text split at its separators, piece by piece;
* `readSpec_of_plain`, `readSpecs_of_plain`: the readers agree with it on one spec,
  and on all of them;
* `parse_eq_parsePlain`: so the two readings of a plain text are the same.
-/
import RecordRules.Proofs.Folds
import RecordRules.Proofs.Rule.RoundTrip

namespace RecordRules.RuleText

open Text
open Rule (EndsSpec)

variable {s rest : List Char} {c : Char}

/-! ### Plain texts -/

/-- The text has neither backslashes nor quotes. -/
def IsPlain (s : List Char) : Prop := ∀ c ∈ s, c ≠ '\\' ∧ c ≠ '\'' ∧ c ≠ '"'

instance (s : List Char) : Decidable (IsPlain s) := List.decidableBAll _ _

namespace IsPlain

lemma of_subset {t : List Char} (h : IsPlain t) (sub : s ⊆ t) : IsPlain s := fun c mem => h c (sub mem)

lemma takeWhile (h : IsPlain s) (p : Char → Bool) : IsPlain (s.takeWhile p) :=
  h.of_subset (List.takeWhile_sublist p).subset

lemma dropWhile (h : IsPlain s) (p : Char → Bool) : IsPlain (s.dropWhile p) :=
  h.of_subset (List.dropWhile_sublist p).subset

lemma tail (h : IsPlain (c :: s)) : IsPlain s := h.of_subset (List.subset_cons_self c s)

end IsPlain

/-- A scan of a plain text stops at the first delimiter, or where the spec ends. -/
lemma takeUntil_append_of_plain {stop : Char → Bool} (plain : IsPlain s) (ends : EndsSpec rest)
    (pipe : stop '|' = true) :
    takeUntil stop (s ++ rest) = (s.takeWhile (!stop ·), s.dropWhile (!stop ·) ++ rest) := by
  induction s with
  | nil => exact ends.takeUntil pipe
  | cons c s ih =>
    have unescaped : c ≠ '\\' := (plain c List.mem_cons_self).1
    cases stops : stop c with
    | true => simp [takeUntil_cons_of_stop stop stops unescaped, stops]
    | false =>
      rw [List.cons_append, takeUntil_cons stop unescaped stops, ih plain.tail]
      simp [stops]

lemma unescape_of_plain (plain : IsPlain s) : unescape s = s := by
  fun_induction unescape s with
  | case1 => rfl
  | case2 => rfl
  | case3 c d rest escape => exact absurd escape.1 (plain c List.mem_cons_self).1
  | case4 c d rest unescaped ih => rw [ih plain.tail]

lemma splitCommas_of_plain (plain : IsPlain s) : splitCommas s = s.splitOn ',' := by
  induction s with
  | nil => rfl
  | cons c s ih =>
    rw [List.splitOn_cons_eq_if_modifyHead, ← ih plain.tail]
    by_cases comma : c = ','
    · rw [comma, splitCommas_comma]
      rfl
    · rw [splitCommas_cons (plain c List.mem_cons_self).1 comma, if_neg (by simpa using comma)]

lemma isNamePadding_of_plain (plain : IsPlain s) : ∀ c ∈ s, isNamePadding c = isBlank c := by
  intro c mem
  obtain ⟨-, single, double⟩ := plain c mem
  rw [isNamePadding, beq_eq_false_iff_ne.mpr single, beq_eq_false_iff_ne.mpr double, Bool.or_false,
    Bool.or_false]

/-- Splitting adds no characters. -/
lemma subset_of_mem_splitOn {sep : Char} {piece : List Char} (mem : piece ∈ s.splitOn sep) : piece ⊆ s := by
  induction s generalizing piece with
  | nil =>
    rw [List.splitOn_nil, List.mem_singleton] at mem
    exact mem ▸ List.nil_subset []
  | cons c s ih =>
    rw [List.splitOn_cons_eq_if_modifyHead] at mem
    obtain ⟨first, more, division⟩ := List.exists_cons_of_ne_nil (List.splitOn_ne_nil sep s)
    rw [division] at mem ih
    split at mem
    · rcases List.mem_cons.mp mem with rfl | mem
      · exact List.nil_subset _
      · exact List.subset_cons_of_subset c (ih mem)
    · rcases List.mem_cons.mp mem with rfl | mem
      · exact List.cons_subset_cons c (ih List.mem_cons_self)
      · exact List.subset_cons_of_subset c (ih (List.mem_cons_of_mem first mem))

lemma IsPlain.trim (plain : IsPlain s) : IsPlain (trim s) := by
  refine plain.of_subset fun c mem => ?_
  have inside := (List.dropWhile_sublist _).subset (List.mem_reverse.mp mem)
  exact (List.dropWhile_sublist _).subset (List.mem_reverse.mp inside)

/-! ### Plain specs -/

/-- The characters that end the name of a plain spec. -/
def isMark (c : Char) : Bool := c == ':' || c == ';'

/-- The text before the first mark. -/
def plainName (spec : List Char) : List Char := spec.takeWhile (!isMark ·)

/-- The arguments, if the first mark is a colon: what stands before the next
semicolon, divided at its commas. -/
def plainArguments (spec : List Char) : List (List Char) :=
  match spec.dropWhile (!isMark ·) with
  | ':' :: rest =>
    let raw := rest.takeWhile (· ≠ ';')
    if isAllBlank raw then [] else (raw.splitOn ',').map trim
  | _ => []

/-- The text behind the first semicolon. -/
def plainMessage (spec : List Char) : List Char := (spec.dropWhile (· ≠ ';')).drop 1

/-- The rule that a plain spec writes. -/
def plainRule (spec : List Char) : Rule where
  name := String.ofList (lower (trim (plainName spec)))
  arguments := (plainArguments spec).map String.ofList
  message := if isAllBlank (plainMessage spec) then none else some (String.ofList (trim (plainMessage spec)))

/-- The rule of a plain spec, which needs a name and may not begin with a mark. -/
def readPlainSpec (spec : List Char) : Except RuleTextFault Rule :=
  if spec.head?.any isMark then .error .misplacedDelimiter
  else if isAllBlank (plainName spec) then .error .emptyName
  else .ok (plainRule spec)

/-! ### Plain texts, piece by piece -/

/-- Pieces that a separator stands between, each with the byte offset at which it
starts. -/
def placed (start : Nat) : List (List Char) → List (Nat × List Char)
  | [] => []
  | piece :: rest => (start, piece) :: placed (start + byteLength piece + 1) rest

/-- The pieces that are not made of ASCII white space, each without the white space
at its start. -/
def plainSpecs (start : Nat) (pieces : List (List Char)) : List (Nat × List Char) :=
  ((placed start pieces).filter fun (_, piece) => !piece.all isAsciiBlank).map fun (offset, piece) =>
    (offset + byteLength (piece.takeWhile isAsciiBlank), piece.dropWhile isAsciiBlank)

/-- The rules of plain specs. The first spec that is none is the fault. -/
def readPlainSpecs (specs : List (Nat × List Char)) : Except (Nat × RuleTextFault) (List Rule) :=
  specs.mapM fun (offset, spec) => (readPlainSpec spec).mapError fun fault => (offset, fault)

/-! ### One spec -/

lemma eat?_of_endsSpec (ends : EndsSpec rest) (other : c ≠ '|') : eat? c rest = none := by
  cases rest with
  | nil => rfl
  | cons d rest =>
    cases ends d rfl
    rw [eat?, if_neg other.symm]

lemma nameOf_of_plain (plain : IsPlain s) : nameOf s = lower (trim s) := by
  have unquoted : trimBoth isNamePadding s = trim s := trimBoth_congr (isNamePadding_of_plain plain)
  rw [nameOf, unquoted, unescape_of_plain plain.trim, trim_trim]

lemma argumentsOf_of_plain (plain : IsPlain s) :
    argumentsOf s = if isAllBlank s then [] else (s.splitOn ',').map trim := by
  rw [argumentsOf, splitCommas_of_plain plain]
  split
  · rfl
  · refine List.map_congr_left fun piece mem => ?_
    have piece_plain := plain.of_subset (subset_of_mem_splitOn mem)
    rw [unescape_of_plain piece_plain.trim, trim_trim]

/-- Two marks of a spec: the text behind the name, from the first semicolon on. -/
lemma dropWhile_isMark (spec : List Char) :
    (spec.dropWhile (!isMark ·)).dropWhile (· ≠ ';') = spec.dropWhile (· ≠ ';') := by
  refine dropWhile_dropWhile (fun c outside => ?_) spec
  have other : c ≠ ';' := by
    rintro rfl
    cases outside
  simpa using other

lemma readArguments_of_plain {spec : List Char} (plain : IsPlain spec) (whole : '|' ∉ spec)
    (ends : EndsSpec rest) :
    readArguments (spec.dropWhile (!isMark ·) ++ rest) =
      (plainArguments spec, spec.dropWhile (· ≠ ';') ++ rest) := by
  rw [← dropWhile_isMark, readArguments, plainArguments]
  have marked := plain.dropWhile (!isMark ·)
  have whole' : '|' ∉ spec.dropWhile (!isMark ·) := fun mem => whole ((List.dropWhile_sublist _).subset mem)
  cases start : spec.dropWhile (!isMark ·) with
  | nil => rw [List.nil_append, eat?_of_endsSpec ends (by decide)]; rfl
  | cons c raw =>
    rw [start] at marked whole'
    have mark : isMark c = true := by simpa using head_dropWhile start
    rw [isMark, Bool.or_eq_true, beq_iff_eq, beq_iff_eq] at mark
    rcases mark with rfl | rfl
    · have stops : ∀ c ∈ raw, (!endsArguments c) = decide (c ≠ ';') := by
        intro c mem
        have other : c ≠ '|' := fun pipe => whole' (List.mem_cons_of_mem ':' (pipe ▸ mem))
        grind [endsArguments]
      simp only [List.cons_append, eat?, ↓reduceIte]
      rw [takeUntil_append_of_plain marked.tail ends rfl, argumentsOf_of_plain (marked.tail.takeWhile _),
        takeWhile_congr stops, dropWhile_congr stops]
      rfl
    · rfl

lemma readMessage_of_plain (plain : IsPlain s) (whole : '|' ∉ s) (ends : EndsSpec rest) :
    readMessage (s ++ rest) = .ok (trim s, rest) := by
  have skipped : (s ++ rest).dropWhile isAsciiBlank = s.dropWhile isAsciiBlank ++ rest := by
    rw [List.dropWhile_append, ends.dropWhile_blank]
    split
    · next empty => rw [List.isEmpty_iff.mp empty]; rfl
    · rfl
  have taken : takeUntil (· == '|') (s.dropWhile isAsciiBlank ++ rest) = (s.dropWhile isAsciiBlank, rest) := by
    have goes : ∀ c ∈ s.dropWhile isAsciiBlank, (!(c == '|')) = true := by
      intro c mem
      have other : c ≠ '|' := fun pipe => whole ((List.dropWhile_sublist _).subset (pipe ▸ mem))
      simpa using other
    rw [takeUntil_append_of_plain (plain.dropWhile _) ends rfl, List.takeWhile_eq_self_iff.mpr goes,
      List.dropWhile_eq_nil_iff.mpr goes, List.nil_append]
  have trimmed : trim (unescape (s.dropWhile isAsciiBlank)) = trim s := by
    rw [unescape_of_plain (plain.dropWhile _)]
    exact trimBoth_dropWhile (fun c => isBlank_of_isAsciiBlank) s
  rw [readMessage, skipped]
  cases start : s.dropWhile isAsciiBlank ++ rest with
  | nil =>
    obtain ⟨nothing, rfl⟩ := List.append_eq_nil_iff.mp start
    rw [← trimmed, nothing]
    rfl
  | cons c more =>
    have unquoted : ¬(c = '\'' ∨ c = '"') := by
      cases inside : s.dropWhile isAsciiBlank with
      | nil =>
        rw [inside, List.nil_append] at start
        cases ends c (start ▸ rfl)
        decide
      | cons d tail =>
        rw [inside, List.cons_append, List.cons.injEq] at start
        have first := plain d ((List.dropWhile_sublist _).subset (inside ▸ List.mem_cons_self))
        rw [← start.1]
        exact not_or.mpr first.2
    dsimp only
    rw [if_neg unquoted, ← start, taken, trimmed]

lemma make_plainRule (spec : List Char) :
    (Rule.make (String.ofList (lower (trim (plainName spec)))) ((plainArguments spec).map String.ofList)).withMessage
      (String.ofList (trim (plainMessage spec))) = plainRule spec := by
  have name : lowerString (String.ofList (lower (trim (plainName spec)))) =
      String.ofList (lower (trim (plainName spec))) := by
    rw [lowerString, String.toList_ofList, lower_lower]
  have blank : String.ofList (trim (plainMessage spec)) = "" ↔ isAllBlank (plainMessage spec) = true := by
    rw [String.ofList_eq_empty_iff, isAllBlank_iff_trim]
  rw [Rule.make, Rule.withMessage, plainRule, name]
  simp only [blank]

/-- A plain spec is read as its marks say. -/
lemma readSpec_of_plain {spec : List Char} (plain : IsPlain spec) (whole : '|' ∉ spec) (some_text : spec ≠ [])
    (ends : EndsSpec rest) :
    readSpec (spec ++ rest) =
      match readPlainSpec spec with
      | .ok rule => .ok (rule, rest)
      | .error fault => .error ⟨fault, spec ++ rest⟩ := by
  have marks : ∀ c ∈ spec, (!endsName c) = (!isMark c) := by
    intro c mem
    have other : c ≠ '|' := fun pipe => whole (pipe ▸ mem)
    grind [endsName, isMark]
  have taken : takeUntil endsName (spec ++ rest) = (plainName spec, spec.dropWhile (!isMark ·) ++ rest) := by
    rw [takeUntil_append_of_plain plain ends rfl, takeWhile_congr marks, dropWhile_congr marks]
    rfl
  have message : readOptionalMessage (spec.dropWhile (· ≠ ';') ++ rest) = .ok (trim (plainMessage spec), rest) := by
    rw [readOptionalMessage, plainMessage]
    have marked := plain.dropWhile (· ≠ ';')
    have whole' : '|' ∉ spec.dropWhile (· ≠ ';') := fun mem => whole ((List.dropWhile_sublist _).subset mem)
    cases start : spec.dropWhile (· ≠ ';') with
    | nil => rw [List.nil_append, eat?_of_endsSpec ends (by decide)]; rfl
    | cons c raw =>
      rw [start] at marked whole'
      obtain rfl : c = ';' := by simpa using head_dropWhile start
      exact readMessage_of_plain marked.tail (fun mem => whole' (List.mem_cons_of_mem _ mem)) ends
  have name : nameOf (plainName spec) = lower (trim (plainName spec)) := nameOf_of_plain (plain.takeWhile _)
  have unnamed : lower (trim (plainName spec)) = [] ↔ isAllBlank (plainName spec) = true := by
    rw [isAllBlank_iff_trim]
    refine ⟨fun none => ?_, fun none => by rw [none]; rfl⟩
    by_contra some_name
    exact lower_ne_nil some_name none
  have head : (spec ++ rest).head? = spec.head? := by
    obtain ⟨c, more, rfl⟩ := List.exists_cons_of_ne_nil some_text
    rfl
  rw [readSpec, taken, head, readPlainSpec]
  dsimp only
  rw [readArguments_of_plain plain whole ends, message, name]
  simp only [unnamed, make_plainRule]
  rw [show (fun c => c == ':' || c == ';') = isMark from rfl]
  split
  · rfl
  · split <;> rfl

/-! ### All specs -/

lemma plainSpecs_cons (start : Nat) (piece : List Char) (more : List (List Char)) :
    plainSpecs start (piece :: more) =
      (if piece.all isAsciiBlank then []
        else [(start + byteLength (piece.takeWhile isAsciiBlank), piece.dropWhile isAsciiBlank)]) ++
        plainSpecs (start + byteLength piece + 1) more := by
  rw [plainSpecs, placed, List.filter_cons]
  by_cases blank : piece.all isAsciiBlank = true
  · rw [if_pos blank, if_neg (by simp [blank])]
    rfl
  · rw [if_neg blank, if_pos (by simp [blank])]
    rfl

lemma readPlainSpecs_cons (offset : Nat) (spec : List Char) (more : List (Nat × List Char)) :
    readPlainSpecs ((offset, spec) :: more) =
      match readPlainSpec spec with
      | .ok rule => (readPlainSpecs more).map (rule :: ·)
      | .error fault => .error (offset, fault) := by
  rw [readPlainSpecs, List.mapM_cons]
  dsimp only
  cases readPlainSpec spec with
  | error fault => rfl
  | ok rule =>
    change (do let rest ← readPlainSpecs more; pure (rule :: rest)) = (readPlainSpecs more).map (rule :: ·)
    cases readPlainSpecs more <;> rfl

/-- What stands between the specs of a plain text is white space. -/
lemma isBetweenSpecs_of_plain (plain : IsPlain s) (whole : '|' ∉ s) :
    ∀ c ∈ s, isBetweenSpecs c = isAsciiBlank c := by
  intro c mem
  obtain ⟨-, single, double⟩ := plain c mem
  have other : c ≠ '|' := fun pipe => whole (pipe ▸ mem)
  rw [isBetweenSpecs, beq_eq_false_iff_ne.mpr single, beq_eq_false_iff_ne.mpr double,
    beq_eq_false_iff_ne.mpr other, Bool.false_or, Bool.or_false, Bool.or_false]

/-- The first piece of a plain text, and what stands behind it. -/
lemma readSpecs_piece {piece : List Char} (plain : IsPlain piece) (whole : '|' ∉ piece) (ends : EndsSpec rest)
    {start : Nat} {more : List (List Char)}
    (later : (readSpecs rest).mapError
        (fun e => (start + byteLength (piece ++ rest) - byteLength e.rest, e.fault)) =
      readPlainSpecs (plainSpecs (start + byteLength piece + 1) more)) :
    (readSpecs (piece ++ rest)).mapError
        (fun e => (start + byteLength (piece ++ rest) - byteLength e.rest, e.fault)) =
      readPlainSpecs (plainSpecs start (piece :: more)) := by
  have first : start + byteLength (piece ++ rest) - byteLength (piece.dropWhile isAsciiBlank ++ rest) =
      start + byteLength (piece.takeWhile isAsciiBlank) := by
    have parts : piece.takeWhile isAsciiBlank ++ piece.dropWhile isAsciiBlank = piece :=
      List.takeWhile_append_dropWhile
    have bytes := congrArg byteLength parts
    rw [byteLength_append] at bytes
    rw [byteLength_append, byteLength_append]
    omega
  rw [plainSpecs_cons]
  have between := isBetweenSpecs_of_plain plain whole
  have skipped : (piece ++ rest).dropWhile isBetweenSpecs =
      if piece.all isAsciiBlank then rest.dropWhile isBetweenSpecs else piece.dropWhile isAsciiBlank ++ rest := by
    rw [List.dropWhile_append, dropWhile_congr between]
    simp only [List.isEmpty_iff, dropWhile_eq_nil_iff]
  cases blank : piece.all isAsciiBlank with
  | true =>
    rw [blank, if_pos rfl] at skipped
    rw [if_pos rfl, List.nil_append, ← later, readSpecs_congr skipped]
  | false =>
    rw [blank, if_neg Bool.false_ne_true] at skipped
    rw [if_neg Bool.false_ne_true, List.singleton_append, readPlainSpecs_cons]
    have some_text : piece.dropWhile isAsciiBlank ≠ [] := by
      rw [ne_eq, dropWhile_eq_nil_iff, blank]
      exact Bool.false_ne_true
    have read := readSpec_of_plain (plain.dropWhile isAsciiBlank)
      (fun mem => whole ((List.dropWhile_sublist _).subset mem)) some_text ends
    obtain ⟨c, tail, spec⟩ := List.exists_cons_of_ne_nil some_text
    rw [spec] at skipped read first ⊢
    rw [List.cons_append] at skipped
    rw [readSpecs_of_start skipped, ← List.cons_append, read]
    cases readPlainSpec (c :: tail) with
    | error fault =>
      change Except.error (_ - byteLength (c :: tail ++ rest), fault) = _
      rw [first]
    | ok rule =>
      change ((readSpecs rest).map (rule :: ·)).mapError _ = (readPlainSpecs _).map (rule :: ·)
      rw [← later]
      cases readSpecs rest <;> rfl

/-- The specs of a plain text are the plain specs of its pieces. Faults come with the
byte offsets at which their specs start, counted from `start`. -/
lemma readSpecs_of_plain (plain : IsPlain s) (start : Nat) :
    (readSpecs s).mapError (fun e => (start + byteLength s - byteLength e.rest, e.fault)) =
      readPlainSpecs (plainSpecs start (s.splitOn '|')) := by
  -- the induction is on the pieces: behind the first one stands a shorter text
  induction length : s.length using Nat.strong_induction_on generalizing s start with
  | _ n ih =>
    subst length
    have whole : '|' ∉ s.takeWhile (· ≠ '|') := fun mem => by simpa using List.mem_takeWhile_imp mem
    have parts : s.takeWhile (· ≠ '|') ++ s.dropWhile (· ≠ '|') = s := List.takeWhile_append_dropWhile
    have first_plain := plain.takeWhile (· ≠ '|')
    have rest_plain := plain.dropWhile (· ≠ '|')
    generalize s.takeWhile (· ≠ '|') = piece at parts whole first_plain
    cases behind : s.dropWhile (· ≠ '|') with
    | nil =>
      rw [behind, List.append_nil] at parts
      subst parts
      rw [List.splitOn_eq_singleton whole]
      have ends : EndsSpec [] := fun c first => nomatch first
      have nothing : readSpecs [] = .ok [] := readSpecs_of_between rfl
      have read : _ = readPlainSpecs (plainSpecs start [piece]) :=
        readSpecs_piece first_plain whole ends (by rw [nothing]; rfl)
      rwa [List.append_nil] at read
    | cons c t =>
      obtain rfl : c = '|' := by simpa using head_dropWhile behind
      rw [behind] at parts rest_plain
      subst parts
      rw [List.splitOn_append_cons_self_of_not_mem whole]
      have ends : EndsSpec ('|' :: t) := fun c first => (Option.some.inj first).symm
      refine readSpecs_piece first_plain whole ends ?_
      have place : ∀ e : Misread, start + byteLength (piece ++ '|' :: t) - byteLength e.rest =
          start + byteLength piece + 1 + byteLength t - byteLength e.rest := by
        intro e
        rw [byteLength_append, byteLength_cons, show Char.utf8Size '|' = 1 from rfl]
        omega
      simp only [readSpecs_pipe, place]
      refine ih t.length ?_ rest_plain.tail _ rfl
      rw [List.length_append, List.length_cons]
      omega

end RecordRules.RuleText

namespace RecordRules.Rule

open RuleText

/-- The rules of a plain text: those of its pieces, without the excluded ones. -/
def parsePlain (text : String) : Except RuleTextError (List Rule) :=
  let specs := plainSpecs 0 (text.toList.splitOn '|')
  if specs = [] then .error ⟨text, 0, .noRule⟩
  else
    match readPlainSpecs specs with
    | .ok rules => .ok (rules.filter fun rule => rule.name.toList.head? ≠ some '/')
    | .error (offset, fault) => .error ⟨text, offset, fault⟩

lemma kept_validation (specs : List Rule) :
    kept .validation specs = specs.filter fun rule => rule.name.toList.head? ≠ some '/' := by
  have whole : forKind .validation = id := rfl
  rw [kept, whole, List.map_id]
  congr 1
  funext rule
  rw [isExcluded, beq_eq_decide, decide_not]

/-- **Plain rule texts are read by splitting.** The rules of a text without backslashes
and quotes, or its fault and the place of the fault, are those of the pieces between
its separators. -/
theorem parse_eq_parsePlain {text : String} (plain : IsPlain text.toList) :
    parse .validation text = parsePlain text := by
  have agree := readSpecs_of_plain plain 0
  rw [parsePlain]
  generalize plainSpecs 0 (text.toList.splitOn '|') = specs at agree
  rw [← agree]
  cases read : readSpecs text.toList with
  | error e =>
    rw [read] at agree
    have some_spec : specs ≠ [] := by
      rintro rfl
      cases agree
    rw [parse_of_misread read, if_neg some_spec, byteLength_toList, Nat.zero_add]
    rfl
  | ok rules =>
    rw [read] at agree
    have alike := mapM_eq_ok_iff.mp agree.symm
    by_cases none : rules = []
    · subst none
      rw [parse_of_no_specs read, if_pos (List.forall₂_nil_right_iff.mp alike)]
    · have some_spec : specs ≠ [] := by
        rintro rfl
        exact none (List.forall₂_nil_left_iff.mp alike)
      rw [parse_of_specs read none, if_neg some_spec, kept_validation]
      rfl

/-- Blank pieces, marks in every order, an excluded rule and upper case; and a fault
behind a character of two bytes. -/
theorem parse_eq_parsePlain_marks :
    IsPlain " |Min: a , b;x:y;|\t/Off;|in:\u00a0;|ends;few:1; ".toList ∧
      parse .validation " |Min: a , b;x:y;|\t/Off;|in:\u00a0;|ends;few:1; " =
        .ok [⟨"min", ["a", "b"], some "x:y;"⟩, ⟨"in", [], none⟩, ⟨"ends", [], some "few:1;"⟩] ∧
      IsPlain "é|\u00a0 ;x|:".toList ∧
      parse .validation "é|\u00a0 ;x|:" = .error ⟨"é|\u00a0 ;x|:", 3, .emptyName⟩ := by
  have plain : IsPlain " |Min: a , b;x:y;|\t/Off;|in:\u00a0;|ends;few:1; ".toList := by decide +kernel
  have faulty : IsPlain "é|\u00a0 ;x|:".toList := by decide +kernel
  exact ⟨plain, (parse_eq_parsePlain plain).trans (by decide +kernel), faulty,
    (parse_eq_parsePlain faulty).trans (by decide +kernel)⟩

end RecordRules.Rule
