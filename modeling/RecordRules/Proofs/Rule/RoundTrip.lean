/-
Rules that are written and read back.

* `Rule.Legible`: what holds of every rule that was read from a text
  (`parse_legible`);
* `Rule.Canonical`: the rules that writing and reading leaves as they are;
* `readSpecs_specChars`, `readSpecs_specChars_cases`: how the text of one rule is
  read, for a canonical rule and for any rule;
* `parse_write_iff`: a list of rules is read back iff it is not empty and all of
  them are canonical;
* `parse_write_of_parse_iff`: rules that were read from a text are written so
  that they are read back iff none of their names begins with a quote. Names are
  written with their quotes bare, and the reader takes a quote at the start of a
  name for padding.
-/
import RecordRules.Proofs.Rule.Escaping
import RecordRules.Proofs.Rule.Separation
import RecordRules.Rule.Writer

namespace RecordRules.Rule

open Text RuleText

/-! ### Rules that were read -/

/-- What reading makes sure of. -/
structure Legible (rule : Rule) : Prop where
  name_ne : rule.name ≠ ""
  name_lower : lowerString rule.name = rule.name
  name_starts : StartsOutside isBlank rule.name.toList
  name_ends : EndsOutside isNamePadding rule.name.toList
  trimmed : ∀ a ∈ rule.arguments, trim a.toList = a.toList
  arguments_ne : rule.arguments ≠ [""]
  message_ne : rule.message ≠ some ""

/-- The arguments of a raw text are trimmed, and never one empty text. -/
lemma argumentsOf_legible (raw : List Char) :
    (∀ a ∈ argumentsOf raw, trim a = a) ∧ argumentsOf raw ≠ [[]] := by
  rw [argumentsOf]
  split
  · exact ⟨fun a mem => (List.not_mem_nil mem).elim, by simp⟩
  · next some_text =>
    constructor
    · intro a mem
      obtain ⟨piece, -, rfl⟩ := List.mem_map.mp mem
      exact trim_trim _
    · intro single
      -- a single piece is the whole text, and that is not blank
      obtain ⟨piece, whole, empty⟩ := List.map_eq_singleton_iff.mp single
      have text := intercalate_splitCommas raw
      rw [whole, List.intercalate_singleton] at text
      subst text
      have rest : trim piece ≠ [] := fun blank =>
        some_text ((isAllBlank_iff_trim piece).mpr blank)
      refine trim_ne_nil (unescape_startsOutside (trimBoth_startsOutside isBlank piece)) ?_ empty
      exact unescape_ne_nil rest

lemma readArguments_legible (s : List Char) :
    (∀ a ∈ (readArguments s).1, trim a = a) ∧ (readArguments s).1 ≠ [[]] := by
  rw [readArguments]
  split
  · exact argumentsOf_legible _
  · exact ⟨fun a mem => (List.not_mem_nil mem).elim, by simp⟩

lemma withMessage_message_ne (rule : Rule) (message : String) :
    (rule.withMessage message).message ≠ some "" := by
  rw [withMessage]
  split
  · exact nofun
  · next some_message => exact fun same => some_message (Option.some.inj same)

lemma readSpec_legible {s after : List Char} {rule : Rule} (read : readSpec s = .ok (rule, after)) :
    rule.Legible := by
  obtain ⟨-, named, message, -, rfl⟩ := readSpec_eq_ok_iff.mp read
  obtain ⟨trimmed, arguments_ne⟩ := readArguments_legible (takeUntil endsName s).2
  have name : lowerString (String.ofList (nameOf (takeUntil endsName s).1)) =
      String.ofList (lower (rawNameOf (takeUntil endsName s).1)) := by
    rw [lowerString, String.toList_ofList, nameOf_eq, lower_lower]
  rw [nameOf_eq] at named
  have settled : ∀ c, Settled c → isBlank c = false := fun _ h => h.not_blank
  refine ⟨?_, lowerString_lowerString _, ?_, ?_, ?_, ?_, withMessage_message_ne _ _⟩
  · change lowerString _ ≠ ""
    rw [name]
    exact fun empty => named (by simpa using congrArg String.toList empty)
  · change StartsOutside isBlank (lowerString _).toList
    rw [name, String.toList_ofList]
    exact (rawNameOf_startsOutside _).lower settled
  · change EndsOutside isNamePadding (lowerString _).toList
    rw [name, String.toList_ofList]
    exact (rawNameOf_endsOutside _).lower fun _ => isNamePadding_of_settled
  · intro a mem
    obtain ⟨piece, mem', rfl⟩ := List.mem_map.mp mem
    rw [String.toList_ofList]
    exact trimmed piece mem'
  · intro single
    obtain ⟨piece, whole, empty⟩ := List.map_eq_singleton_iff.mp single
    have nothing : piece = [] := by simpa using congrArg String.toList empty
    exact arguments_ne (by rw [whole, nothing])

lemma readSpecs_legible {s : List Char} {specs : List Rule} (read : readSpecs s = .ok specs) :
    ∀ rule ∈ specs, rule.Legible := by
  fun_induction readSpecs s generalizing specs with
  | case1 =>
    cases read
    exact fun rule mem => (List.not_mem_nil mem).elim
  | case2 => cases read
  | case3 => cases read
  | case4 s c rest start first after found more later ih =>
    cases read
    intro rule mem
    rcases List.mem_cons.mp mem with rfl | mem
    · exact readSpec_legible found
    · exact ih later rule mem

lemma Legible.withoutMessage {rule : Rule} (h : rule.Legible) : rule.withoutMessage.Legible :=
  ⟨h.name_ne, h.name_lower, h.name_starts, h.name_ends, h.trimmed, h.arguments_ne, nofun⟩

/-- The rules of a text are legible and none is excluded. -/
theorem parse_legible {kind : RuleKind} {text : String} {rules : List Rule}
    (read : parse kind text = .ok rules) :
    ∀ rule ∈ rules, rule.Legible ∧ isExcluded rule = false := by
  obtain ⟨specs, found, -, rfl⟩ := exists_specs_of_parse read
  intro rule mem
  obtain ⟨spec, spec_mem, rfl⟩ := List.mem_map.mp mem
  obtain ⟨spec_mem, included⟩ := List.mem_filter.mp spec_mem
  have legible := readSpecs_legible found spec spec_mem
  rw [Bool.not_eq_true'] at included
  cases kind with
  | sanitization => exact ⟨legible.withoutMessage, included⟩
  | validation => exact ⟨legible, included⟩

/-! ### Rules that are written -/

/-- What may follow the text of a rule: a separator, or nothing. -/
def EndsSpec (rest : List Char) : Prop := ∀ c, rest.head? = some c → c = '|'

lemma EndsSpec.atSpecEnd {rest : List Char} (h : EndsSpec rest) : atSpecEnd rest = true := by
  cases rest with
  | nil => rfl
  | cons c rest =>
    cases h c rfl
    rfl

lemma EndsSpec.dropWhile_blank {rest : List Char} (h : EndsSpec rest) :
    rest.dropWhile isAsciiBlank = rest := by
  cases rest with
  | nil => rfl
  | cons c rest =>
    cases h c rfl
    rfl

lemma EndsSpec.takeUntil {rest : List Char} (h : EndsSpec rest) {stop : Char → Bool}
    (pipe : stop '|' = true) : takeUntil stop rest = ([], rest) := by
  cases rest with
  | nil => rfl
  | cons c rest =>
    cases h c rfl
    exact takeUntil_cons_of_stop stop pipe (by decide) rest

section

variable {rest : List Char} (ends : EndsSpec rest)

include ends

/-- A message is read as it was written, whatever characters it has. -/
lemma readOptionalMessage_messageText (message : Option String) :
    readOptionalMessage (messageText message ++ rest) = .ok ((message.getD "").toList, rest) := by
  cases message with
  | none =>
    have other : eat? ';' rest = none := by
      cases rest with
      | nil => rfl
      | cons c rest =>
        cases ends c rfl
        rfl
    rw [messageText, List.nil_append, readOptionalMessage, other]
    rfl
  | some message =>
    have text : messageText (some message) ++ rest =
        ';' :: '\'' :: (escapeMessage message.toList ++ '\'' :: rest) := by
      simp [messageText]
    have eaten : eat? ';' (';' :: '\'' :: (escapeMessage message.toList ++ '\'' :: rest)) =
        some ('\'' :: (escapeMessage message.toList ++ '\'' :: rest)) := rfl
    rw [text, readOptionalMessage, eaten]
    dsimp only
    rw [readMessage, List.dropWhile_cons_of_neg (by decide)]
    dsimp only
    rw [if_pos (Or.inl rfl), closingQuote?_escapeMessage ends.atSpecEnd]
    dsimp only
    rw [unescape_escapeMessage, ends.dropWhile_blank]
    rfl

lemma takeUntil_messageText {stop : Char → Bool} (semicolon : stop ';' = true)
    (pipe : stop '|' = true) (message : Option String) :
    takeUntil stop (messageText message ++ rest) = ([], messageText message ++ rest) := by
  cases message with
  | none => exact ends.takeUntil pipe
  | some message => exact takeUntil_cons_of_stop stop semicolon (by decide) _

lemma takeUntil_argumentsText {stop : Char → Bool} (colon : stop ':' = true)
    (semicolon : stop ';' = true) (pipe : stop '|' = true) (arguments : List String)
    (message : Option String) :
    takeUntil stop (argumentsText arguments ++ (messageText message ++ rest)) =
      ([], argumentsText arguments ++ (messageText message ++ rest)) := by
  by_cases none : arguments = []
  · rw [argumentsText, if_pos none]
    exact takeUntil_messageText ends semicolon pipe message
  · rw [argumentsText, if_neg none]
    exact takeUntil_cons_of_stop stop colon (by decide) _

end

/-- The arguments that are read back from the text of some arguments. -/
def readBack (arguments : List String) : List (List Char) :=
  if arguments = [] then []
  else argumentsOf (List.intercalate [','] ((arguments.map String.toList).map escape))

lemma readBack_eq {arguments : List String} (trimmed : ∀ a ∈ arguments, trim a.toList = a.toList)
    (not_blank : arguments ≠ [""]) : readBack arguments = arguments.map String.toList := by
  rw [readBack]
  split
  · next none =>
    rw [none]
    rfl
  · next some_arguments =>
    refine argumentsOf_escape (by simpa using some_arguments) ?_ ?_
    · intro a mem
      obtain ⟨s, mem', rfl⟩ := List.mem_map.mp mem
      exact trimmed s mem'
    · intro single
      obtain ⟨s, rfl, empty⟩ := List.map_eq_singleton_iff.mp single
      exact not_blank (by rw [String.toList_eq_nil_iff.mp empty])

lemma readArguments_argumentsText {rest : List Char} (ends : EndsSpec rest)
    (arguments : List String) (message : Option String) :
    readArguments (argumentsText arguments ++ (messageText message ++ rest)) =
      (readBack arguments, messageText message ++ rest) := by
  rw [readArguments, readBack]
  by_cases none : arguments = []
  · have other : eat? ':' (messageText message ++ rest) = .none := by
      cases message with
      | none =>
        cases rest with
        | nil => rfl
        | cons c rest =>
          cases ends c rfl
          rfl
      | some message => rfl
    rw [argumentsText, if_pos none, if_pos none, List.nil_append, other]
  · have sub : ∀ c, endsArguments c = true → needsEscape c = true := by
      intro c stop
      simp only [endsArguments, Bool.or_eq_true, beq_iff_eq] at stop
      rcases stop with rfl | rfl <;> rfl
    have cut := takeUntil_intercalate sub rfl (takeUntil_messageText ends rfl rfl message)
      (arguments.map String.toList)
    rw [argumentsText, if_neg none, if_neg none, List.cons_append, eat?, if_pos rfl]
    dsimp only
    rw [List.map_map] at cut ⊢
    change (argumentsOf (takeUntil endsArguments _).1, (takeUntil endsArguments _).2) = _
    rw [show (fun a => escape a.toList) = escape ∘ String.toList from rfl, cut]

/-- The rule that is read back from the text of a name that is not empty. -/
def rereadAs (name : List Char) (rule : Rule) : Rule :=
  (make (String.ofList (nameOf (escape name)))
    ((readBack rule.arguments).map String.ofList)).withMessage (rule.message.getD "")

/-- The text of a rule with another name is read up to its end. -/
lemma readSpec_written {name rest : List Char} (some_name : name ≠ []) (ends : EndsSpec rest)
    (rule : Rule) :
    let text := escape name ++
      (argumentsText rule.arguments ++ (messageText rule.message ++ rest))
    readSpec text = if nameOf (escape name) = [] then .error ⟨.emptyName, text⟩
      else .ok (rereadAs name rule, rest) := by
  intro text
  have sub : ∀ c, endsName c = true → needsEscape c = true := by
    intro c stop
    simp only [endsName, Bool.or_eq_true, beq_iff_eq] at stop
    rcases stop with (rfl | rfl) | rfl <;> rfl
  have cut : takeUntil endsName text =
      (escape name, argumentsText rule.arguments ++ (messageText rule.message ++ rest)) := by
    rw [takeUntil_escape_append sub, takeUntil_argumentsText ends rfl rfl rfl, List.append_nil]
  have head : (text.head?.any fun c => c == ':' || c == ';') = false := by
    obtain ⟨c, more, rfl⟩ := List.exists_cons_of_ne_nil some_name
    have first : (escape (c :: more)).head? = some (if needsEscape c = true then '\\' else c) := by
      rw [escape, escapeWhere]
      split <;> rfl
    rw [List.head?_append, first, Option.some_or, Option.any_some]
    split
    · rfl
    · next unescaped =>
      simp only [needsEscape, Bool.or_eq_true, beq_iff_eq, not_or] at unescaped
      simp [unescaped.1.1.1.2, unescaped.1.1.2]
  rw [readSpec, cut, head]
  dsimp only
  rw [if_neg (by simp), readArguments_argumentsText ends]
  dsimp only
  rw [readOptionalMessage_messageText ends]
  dsimp only
  rw [String.ofList_toList]
  rfl

lemma specChars_append (rule : Rule) (rest : List Char) :
    rule.specChars ++ rest = escape rule.name.toList ++
      (argumentsText rule.arguments ++ (messageText rule.message ++ rest)) := by
  rw [specChars, List.append_assoc, List.append_assoc]

/-! ### Canonical rules -/

/-- The rules that are read back as they are: the name is in lower case, has
neither white space nor quotes at its ends and does not begin with a slash, the
arguments are trimmed, and they are not a single empty text. -/
structure Canonical (rule : Rule) : Prop where
  name_ne : rule.name ≠ ""
  name_lower : lowerString rule.name = rule.name
  name_starts : StartsOutside isNamePadding rule.name.toList
  name_ends : EndsOutside isNamePadding rule.name.toList
  not_excluded : rule.name.toList.head? ≠ some '/'
  trimmed : ∀ a ∈ rule.arguments, trim a.toList = a.toList
  arguments_ne : rule.arguments ≠ [""]

instance (rule : Rule) : Decidable rule.Canonical :=
  decidable_of_iff
    (rule.name ≠ "" ∧ lowerString rule.name = rule.name ∧
      StartsOutside isNamePadding rule.name.toList ∧ EndsOutside isNamePadding rule.name.toList ∧
      rule.name.toList.head? ≠ some '/' ∧ (∀ a ∈ rule.arguments, trim a.toList = a.toList) ∧
      rule.arguments ≠ [""])
    ⟨fun ⟨h₁, h₂, h₃, h₄, h₅, h₆, h₇⟩ => ⟨h₁, h₂, h₃, h₄, h₅, h₆, h₇⟩,
      fun ⟨h₁, h₂, h₃, h₄, h₅, h₆, h₇⟩ => ⟨h₁, h₂, h₃, h₄, h₅, h₆, h₇⟩⟩

lemma isExcluded_eq_false_iff {rule : Rule} :
    isExcluded rule = false ↔ rule.name.toList.head? ≠ some '/' := by
  rw [isExcluded, beq_eq_false_iff_ne]

/-- Of a rule that was read only the start of the name is in question. -/
lemma Legible.canonical {rule : Rule} (h : rule.Legible) (included : isExcluded rule = false)
    (starts : StartsOutside isNamePadding rule.name.toList) : rule.Canonical :=
  ⟨h.name_ne, h.name_lower, starts, h.name_ends, isExcluded_eq_false_iff.mp included, h.trimmed,
    h.arguments_ne⟩

lemma Canonical.rereadAs_eq {rule : Rule} (h : rule.Canonical) (message_ne : rule.message ≠ some "") :
    rereadAs rule.name.toList rule = rule := by
  have name : lowerString (String.ofList (nameOf (escape rule.name.toList))) = rule.name := by
    rw [nameOf_escape, trimBoth_eq_self h.name_starts h.name_ends, ← lowerString, h.name_lower,
      h.name_lower]
  have arguments : (readBack rule.arguments).map String.ofList = rule.arguments := by
    rw [readBack_eq h.trimmed h.arguments_ne, List.map_map]
    conv_rhs => rw [← List.map_id rule.arguments]
    exact List.map_congr_left fun a _ => String.ofList_toList
  rw [rereadAs, make, name, arguments]
  cases rule with
  | mk name arguments message =>
    cases message with
    | none => rfl
    | some message =>
      have some_message : message ≠ "" := fun empty => message_ne (by rw [empty])
      simp [withMessage, some_message]

/-- The text of a canonical rule is read as this rule. -/
lemma readSpecs_specChars {rule : Rule} (h : rule.Canonical) (message_ne : rule.message ≠ some "")
    {rest : List Char} (ends : EndsSpec rest) :
    readSpecs (rule.specChars ++ rest) = (readSpecs rest).map (rule :: ·) := by
  have some_name : rule.name.toList ≠ [] := fun none => h.name_ne (String.toList_eq_nil_iff.mp none)
  have named : nameOf (escape rule.name.toList) ≠ [] := by
    rw [nameOf_escape, trimBoth_eq_self h.name_starts h.name_ends]
    exact lower_ne_nil some_name
  have found := readSpec_written some_name ends rule
  dsimp only at found
  rw [if_neg named, h.rereadAs_eq message_ne, ← specChars_append] at found
  -- nothing of the name is taken for what stands between specs
  have start : ∀ c more, rule.specChars ++ rest = c :: more → isBetweenSpecs c = false := by
    intro c more text
    obtain ⟨d, name, split⟩ := List.exists_cons_of_ne_nil some_name
    have outside := h.name_starts d (by rw [split]; rfl)
    rw [specChars_append, split, escape, escapeWhere] at text
    split at text
    · cases text
      rfl
    · next unescaped =>
      cases text
      by_contra between
      exact unescaped (needsEscape_of_isBetweenSpecs (by simpa using between) outside)
  obtain ⟨c, more, text⟩ := List.exists_cons_of_ne_nil
    (show rule.specChars ++ rest ≠ [] by
      rw [specChars_append]
      exact List.append_ne_nil_of_left_ne_nil (escapeWhere_ne_nil some_name) _)
  have first : (rule.specChars ++ rest).dropWhile isBetweenSpecs = c :: more := by
    rw [text, List.dropWhile_cons_of_neg (by simp [start c more text])]
  rw [readSpecs_of_start first, ← text, found]
  rfl

/-- The characters of a list of rules. -/
def writeChars (rules : List Rule) : List Char := List.intercalate ['|'] (rules.map specChars)

lemma toList_write (rules : List Rule) : (write rules).toList = writeChars rules := by
  rw [write, String.toList_ofList, writeChars]

lemma writeChars_cons (rule : Rule) (rules : List Rule) :
    ∃ rest, EndsSpec rest ∧ writeChars (rule :: rules) = rule.specChars ++ rest ∧
      readSpecs rest = readSpecs (writeChars rules) := by
  cases rules with
  | nil =>
    refine ⟨[], fun c first => (by cases first), ?_, rfl⟩
    rw [writeChars, List.map_singleton, List.intercalate_singleton, List.append_nil]
  | cons other rules =>
    refine ⟨'|' :: writeChars (other :: rules), fun c first => by cases first; rfl, ?_,
      readSpecs_pipe _⟩
    rw [writeChars, List.map_cons, List.map_cons, List.intercalate_cons_cons, List.append_assoc]
    rfl

/-- A list of canonical rules is read back spec by spec. -/
lemma readSpecs_writeChars {rules : List Rule} (canonical : ∀ rule ∈ rules, rule.Canonical)
    (message_ne : ∀ rule ∈ rules, rule.message ≠ some "") :
    readSpecs (writeChars rules) = .ok rules := by
  induction rules with
  | nil => exact readSpecs_of_between rfl
  | cons rule rules ih =>
    obtain ⟨rest, ends, text, same⟩ := writeChars_cons rule rules
    rw [text, readSpecs_specChars (canonical rule List.mem_cons_self)
      (message_ne rule List.mem_cons_self) ends, same,
      ih (fun r mem => canonical r (List.mem_cons_of_mem _ mem))
        fun r mem => message_ne r (List.mem_cons_of_mem _ mem)]
    rfl

lemma kept_of_included {rules : List Rule} (kind : RuleKind)
    (included : ∀ rule ∈ rules, isExcluded rule = false) : kept kind rules = rules.map (forKind kind) := by
  rw [kept, List.filter_eq_self.mpr fun rule mem => by rw [included rule mem]; rfl]

/-! ### Any rules -/

/-- The name that is read back from the text of a rule. -/
def rereadName (rule : Rule) : String :=
  String.ofList (lower (trimBoth isNamePadding rule.name.toList))

/-- The text of any rule: if it is read without a fault, it is passed over, or a
rule with the name in lower case and without padding is read. -/
lemma readSpecs_specChars_cases {rule : Rule} {rest : List Char} {specs : List Rule}
    (ends : EndsSpec rest) (read : readSpecs (rule.specChars ++ rest) = .ok specs) :
    readSpecs rest = .ok specs ∨
      ∃ first more, specs = first :: more ∧ readSpecs rest = .ok more ∧
        first.name = rule.rereadName := by
  -- what is left of the name when it is not taken for what stands between specs
  let skipped : Char → Bool := fun c => isBetweenSpecs c && !needsEscape c
  have sub : ∀ c, skipped c = true → isNamePadding c = true := by
    intro c skip
    rw [Bool.and_eq_true, Bool.not_eq_true'] at skip
    by_contra outside
    have escaped := needsEscape_of_isBetweenSpecs skip.1 (by simpa using outside)
    rw [escaped] at skip
    cases skip.2
  have text := specChars_append rule rest
  have passed : (escape rule.name.toList).dropWhile isBetweenSpecs =
      escape (rule.name.toList.dropWhile skipped) := dropWhile_escapeWhere (by decide) _
  by_cases empty : rule.name.toList.dropWhile skipped = []
  · have skip : (rule.specChars ++ rest).dropWhile isBetweenSpecs =
        (argumentsText rule.arguments ++ (messageText rule.message ++ rest)).dropWhile
          isBetweenSpecs := by
      rw [text, List.dropWhile_append, passed, empty]
      rfl
    rw [readSpecs_congr skip] at read
    by_cases none : rule.arguments = []
    · rw [argumentsText, if_pos none, List.nil_append] at read
      cases message : rule.message with
      | none =>
        rw [message] at read
        exact Or.inl read
      | some m =>
        rw [message, messageText, List.cons_append, readSpecs_of_start rfl] at read
        cases read
    · rw [argumentsText, if_neg none, List.cons_append, readSpecs_of_start rfl] at read
      cases read
  · obtain ⟨c, more, start⟩ := List.exists_cons_of_ne_nil
      (List.append_ne_nil_of_left_ne_nil (escapeWhere_ne_nil empty)
        (argumentsText rule.arguments ++ (messageText rule.message ++ rest)))
    have first : (rule.specChars ++ rest).dropWhile isBetweenSpecs = c :: more := by
      rw [text, List.dropWhile_append, passed, if_neg]
      · exact start
      · simpa [escape] using escapeWhere_ne_nil empty
    have found := readSpec_written empty ends rule
    dsimp only at found
    rw [readSpecs_of_start first, ← start, ← escape, found] at read
    right
    split at read
    · cases read
    · cases later : readSpecs rest with
      | error e =>
        change (readSpecs rest).map _ = _ at read
        rw [later] at read
        cases read
      | ok others =>
        change (readSpecs rest).map _ = _ at read
        rw [later] at read
        refine ⟨_, others, (Except.ok.inj read).symm, rfl, ?_⟩
        change lowerString (String.ofList _) = _
        rw [lowerString, String.toList_ofList, nameOf_escape, lower_lower, trimBoth_dropWhile sub,
          rereadName]

/-- Nothing is read from the text of rules but their names in lower case and
without padding, in order. -/
lemma names_sublist_of_readSpecs {rules specs : List Rule}
    (read : readSpecs (writeChars rules) = .ok specs) :
    (specs.map name).Sublist (rules.map rereadName) := by
  induction rules generalizing specs with
  | nil =>
    rw [readSpecs_of_between rfl] at read
    cases read
    exact List.Sublist.slnil
  | cons rule rules ih =>
    obtain ⟨rest, ends, text, same⟩ := writeChars_cons rule rules
    rw [text] at read
    rcases readSpecs_specChars_cases ends read with later | ⟨first, more, rfl, later, name_eq⟩
    · rw [same] at later
      exact (ih later).cons _
    · rw [same] at later
      rw [List.map_cons, List.map_cons, name_eq]
      exact (ih later).cons_cons _

/-- If rules are read back, each name is what is read of it. -/
lemma rereadName_eq_of_parse_write {rules : List Rule}
    (read : parse .validation (write rules) = .ok rules) :
    ∀ rule ∈ rules, rule.rereadName = rule.name := by
  obtain ⟨specs, found, -, same⟩ := exists_specs_of_parse read
  rw [toList_write] at found
  have whole : specs.filter (fun rule => !isExcluded rule) = rules := by
    rw [← same, kept]
    exact (List.map_id _).symm
  have sub : (rules.map name).Sublist (rules.map rereadName) := by
    rw [← whole]
    refine (List.filter_sublist.map name).trans ?_
    rw [whole]
    exact names_sublist_of_readSpecs found
  have equal := sub.eq_of_length (by rw [List.length_map, List.length_map])
  exact fun rule mem => (List.map_inj_left.mp equal rule mem).symm

/-- Rules are read back iff there are some and all are canonical, if no message
is an empty text. -/
lemma parse_write_iff_of_messages {rules : List Rule}
    (message_ne : ∀ rule ∈ rules, rule.message ≠ some "") :
    parse .validation (write rules) = .ok rules ↔
      rules ≠ [] ∧ ∀ rule ∈ rules, rule.Canonical := by
  constructor
  · intro read
    refine ⟨?_, fun rule mem => ?_⟩
    · rintro rfl
      have none : readSpecs (write []).toList = .ok [] := by
        rw [toList_write]
        exact readSpecs_of_between rfl
      rw [parse_of_no_specs none] at read
      cases read
    · obtain ⟨legible, included⟩ := parse_legible read rule mem
      have name := rereadName_eq_of_parse_write read rule mem
      have outside : StartsOutside isNamePadding rule.rereadName.toList := by
        rw [rereadName, String.toList_ofList]
        exact (trimBoth_startsOutside _ _).lower fun _ => isNamePadding_of_settled
      rw [name] at outside
      exact legible.canonical included outside
  · rintro ⟨some_rules, canonical⟩
    have found := readSpecs_writeChars canonical message_ne
    rw [← toList_write] at found
    rw [parse_of_specs found some_rules, kept_of_included .validation fun rule mem =>
      isExcluded_eq_false_iff.mpr (canonical rule mem).not_excluded]
    exact congrArg Except.ok (List.map_id rules)

/-- A rule that was made of a name and arguments and may have got messages of
its own. -/
inductive Built : Rule → Prop where
  | make (name : String) (arguments : List String) : Built (make name arguments)
  | withMessage {rule : Rule} (built : Built rule) (message : String) :
      Built (rule.withMessage message)

lemma Built.message_ne {rule : Rule} (h : rule.Built) : rule.message ≠ some "" := by
  cases h with
  | make => exact nofun
  | withMessage _ message => exact withMessage_message_ne _ message

/-- **The round trip of written rules.** Rules are read back from their text iff
there are some and all of them are canonical, whatever their messages are. Read
as sanitizations, canonical rules come back without their messages. -/
theorem parse_write_iff {rules : List Rule} (built : ∀ rule ∈ rules, rule.Built) :
    (parse .validation (write rules) = .ok rules ↔
        rules ≠ [] ∧ ∀ rule ∈ rules, rule.Canonical) ∧
      (rules ≠ [] → (∀ rule ∈ rules, rule.Canonical) →
        parse .sanitization (write rules) = .ok (rules.map withoutMessage)) := by
  have message_ne : ∀ rule ∈ rules, rule.message ≠ some "" := fun rule mem =>
    (built rule mem).message_ne
  refine ⟨parse_write_iff_of_messages message_ne, fun some_rules canonical => ?_⟩
  have found := readSpecs_writeChars canonical message_ne
  rw [← toList_write] at found
  rw [parse_of_specs found some_rules, kept_of_included .sanitization fun rule mem =>
    isExcluded_eq_false_iff.mpr (canonical rule mem).not_excluded]
  rfl

/-- Delimiters, quotes and backslashes in every place. -/
theorem parse_write_iff_delimiters :
    let rules : List Rule :=
      [make "A|b\\" ["x,y", "", "\\"], (make "c'\"d;" []).withMessage " it's \"x\"| \\' ; ",
        (make "\\" [":", "'"]).withMessage "'"]
    (∀ rule ∈ rules, rule.Built) ∧ parse .validation (write rules) = .ok rules ∧
      parse .sanitization (write rules) = .ok (rules.map withoutMessage) := by
  intro rules
  have built : ∀ rule ∈ rules, rule.Built := by
    simp only [rules, List.forall_mem_cons]
    exact ⟨.make _ _, .withMessage (.make _ _) _, .withMessage (.make _ _) _,
      fun _ none => (List.not_mem_nil none).elim⟩
  have canonical : ∀ rule ∈ rules, rule.Canonical := by decide +kernel
  exact ⟨built, (parse_write_iff built).1.mpr ⟨List.cons_ne_nil _ _, canonical⟩,
    (parse_write_iff built).2 (List.cons_ne_nil _ _) canonical⟩

lemma Legible.canonical_iff {rule : Rule} (h : rule.Legible) (included : isExcluded rule = false) :
    rule.Canonical ↔ rule.name.toList.head? ≠ some '\'' ∧ rule.name.toList.head? ≠ some '"' := by
  constructor
  · intro canonical
    constructor <;>
      · intro quote
        exact absurd (canonical.name_starts _ quote) (by decide)
  · rintro ⟨single, double⟩
    refine h.canonical included fun c first => ?_
    have not_single : c ≠ '\'' := fun same => single (by rw [first, same])
    have not_double : c ≠ '"' := fun same => double (by rw [first, same])
    rw [isNamePadding, h.name_starts c first]
    simp [not_single, not_double]

/-- **The round trip of rules that were read.** Rules that were read from a text
are read back from what is written of them iff no name begins with a quote. -/
theorem parse_write_of_parse_iff {text : String} {rules : List Rule}
    (read : parse .validation text = .ok rules) (some_rules : rules ≠ []) :
    parse .validation (write rules) = .ok rules ↔
      ∀ rule ∈ rules,
        rule.name.toList.head? ≠ some '\'' ∧ rule.name.toList.head? ≠ some '"' := by
  have legible := parse_legible read
  rw [parse_write_iff_of_messages fun rule mem => (legible rule mem).1.message_ne]
  constructor
  · rintro ⟨-, canonical⟩ rule mem
    exact ((legible rule mem).1.canonical_iff (legible rule mem).2).mp (canonical rule mem)
  · intro unquoted
    exact ⟨some_rules, fun rule mem =>
      ((legible rule mem).1.canonical_iff (legible rule mem).2).mpr (unquoted rule mem)⟩

/-- A quote inside a name comes back, and so does a backslash before it. -/
theorem parse_write_inner_quote :
    parse .validation " 'Max\\'len' : a\\,b , ;'it\\'s'" =
        .ok [⟨"max'len", ["a,b", ""], some "it's"⟩] ∧
      parse .validation (write [⟨"max'len", ["a,b", ""], some "it's"⟩]) =
        .ok [⟨"max'len", ["a,b", ""], some "it's"⟩] := by
  have read : parse .validation " 'Max\\'len' : a\\,b , ;'it\\'s'" =
      .ok [⟨"max'len", ["a,b", ""], some "it's"⟩] := by decide +kernel
  exact ⟨read, (parse_write_of_parse_iff read (List.cons_ne_nil _ _)).mpr (by decide +kernel)⟩

/-- A name that begins with an escaped quote is read, but what is written of it
is not read back. -/
theorem not_parse_write_of_parse :
    ¬ ∀ (text : String) (rules : List Rule), parse .validation text = .ok rules → rules ≠ [] →
      parse .validation (write rules) = .ok rules := by
  intro back
  have read : parse .validation "\\'a" = .ok [⟨"'a", [], none⟩] := by decide +kernel
  have other : parse .validation (write [⟨"'a", [], none⟩]) = .ok [⟨"a", [], none⟩] := by
    decide +kernel
  rw [back _ _ read (List.cons_ne_nil _ _)] at other
  exact absurd other (by decide +kernel)

end RecordRules.Rule
