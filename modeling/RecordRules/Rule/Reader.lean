/-
Reading rule texts such as `required|minlen:5;'Too short'`.

A rule text is a list of specs that are separated by `|`. A spec is a name, then
arguments after `:`, then a message after `;`.

* `RuleText.takeUntil`: the text up to the first delimiter that is not escaped;
* `RuleText.readSpec`: one spec;
* `RuleText.readSpecs`: all specs of a text;
* `Rule.parse`: the rules of a text, without the specs whose name starts with
  `/`, and with messages for validations only.

A fault carries the text from the place of the fault on, which fixes its byte
offset.
-/
import RecordRules.Rule.Basic
import RecordRules.Rule.Escape
import RecordRules.Text.Blank
import RecordRules.Text.CodeTable
import RecordRules.Text.Utf8

namespace RecordRules.RuleText

open Text

/-! ### Delimiters -/

/-- The text up to the first character in `stop` that is not escaped, still with
its escapes, and the text from there on. -/
def takeUntil (stop : Char → Bool) : List Char → List Char × List Char
  | [] => ([], [])
  | [c] => if stop c then ([], [c]) else ([c], [])
  | c :: d :: rest =>
    if c = '\\' ∧ isEscapable d then
      (c :: d :: (takeUntil stop rest).1, (takeUntil stop rest).2)
    else if stop c then ([], c :: d :: rest)
    else (c :: (takeUntil stop (d :: rest)).1, (takeUntil stop (d :: rest)).2)

/-- Nothing is lost at the division. -/
theorem takeUntil_append (stop : Char → Bool) (s : List Char) :
    (takeUntil stop s).1 ++ (takeUntil stop s).2 = s := by
  fun_induction takeUntil stop s <;> simp_all

theorem takeUntil_length (stop : Char → Bool) (s : List Char) :
    (takeUntil stop s).2.length ≤ s.length := by
  have parts := congrArg List.length (takeUntil_append stop s)
  rw [List.length_append] at parts
  omega

/-- Something is taken unless the text begins with a delimiter. -/
theorem takeUntil_cons_length (stop : Char → Bool) (c : Char) (s : List Char) (h : stop c = false) :
    (takeUntil stop (c :: s)).2.length ≤ s.length := by
  cases s with
  | nil => simp [takeUntil, h]
  | cons d rest =>
    rw [takeUntil]
    split
    · have := takeUntil_length stop rest
      simp only [List.length_cons]
      omega
    · rw [h]
      simpa using takeUntil_length stop (d :: rest)

/-- The text after a character, if it begins with it. -/
def eat? (c : Char) : List Char → Option (List Char)
  | [] => none
  | d :: rest => if d = c then some rest else none

theorem eat?_length {c : Char} {s rest : List Char} (h : eat? c s = some rest) :
    rest.length < s.length := by
  cases s with
  | nil => simp [eat?] at h
  | cons d t =>
    rw [eat?] at h
    split at h
    · simp_all
    · simp at h

/-! ### The parts of a spec -/

/-- What may stand between specs: separators, ASCII white space and quotes. -/
def isBetweenSpecs (c : Char) : Bool := c == '|' || isAsciiBlank c || c == '\'' || c == '"'

/-- What is removed around a name: white space and quotes. -/
def isNamePadding (c : Char) : Bool := isBlank c || c == '\'' || c == '"'

/-- The delimiters that end a name. -/
def endsName (c : Char) : Bool := c == ':' || c == ';' || c == '|'

/-- The delimiters that end the arguments. -/
def endsArguments (c : Char) : Bool := c == ';' || c == '|'

/-- The name that a raw text stands for. -/
def nameOf (raw : List Char) : List Char := lower (trim (unescape (trimBoth isNamePadding raw)))

/-- The text divided at the commas that are not escaped. -/
def splitCommas : List Char → List (List Char)
  | [] => [[]]
  | [c] => if c = ',' then [[], []] else [[c]]
  | c :: d :: rest =>
    if c = '\\' ∧ isEscapable d then
      match splitCommas rest with
      | piece :: pieces => (c :: d :: piece) :: pieces
      | [] => [[c, d]]
    else if c = ',' then [] :: splitCommas (d :: rest)
    else
      match splitCommas (d :: rest) with
      | piece :: pieces => (c :: piece) :: pieces
      | [] => [[c]]

/-- The arguments that a raw text stands for; a blank text stands for none. -/
def argumentsOf (raw : List Char) : List (List Char) :=
  if isAllBlank raw then [] else (splitCommas raw).map fun piece => trim (unescape (trim piece))

/-- After optional ASCII white space the text or the spec ends. -/
def atSpecEnd (s : List Char) : Bool :=
  match s.dropWhile isAsciiBlank with
  | [] => true
  | c :: _ => c == '|'

/-- The raw message before the closing quote and the text after the quote. The
closing quote is the first one that is not escaped and ends the spec. -/
def closingQuote? (quote : Char) : List Char → Option (List Char × List Char)
  | [] => none
  | [c] => if c = quote then some ([], []) else none
  | c :: d :: rest =>
    if c = '\\' ∧ isEscapable d then
      (closingQuote? quote rest).map fun (raw, after) => (c :: d :: raw, after)
    else if c = quote ∧ atSpecEnd (d :: rest) then some ([], d :: rest)
    else (closingQuote? quote (d :: rest)).map fun (raw, after) => (c :: raw, after)

/-- A fault and the text from its place on. -/
structure Misread where
  fault : RuleTextFault
  rest : List Char

/-- The message after `;` and the text that follows it. -/
def readMessage (s : List Char) : Except Misread (List Char × List Char) :=
  match s.dropWhile isAsciiBlank with
  | [] => .ok ([], [])
  | c :: rest =>
    if c = '\'' ∨ c = '"' then
      match closingQuote? c rest with
      | some (raw, after) => .ok (unescape raw, after.dropWhile isAsciiBlank)
      | none => .error ⟨.unterminatedMessage, c :: rest⟩
    else
      let (raw, after) := takeUntil (· == '|') (c :: rest)
      .ok (trim (unescape raw), after)

/-- The arguments after `:`, if it follows, and the text after them. -/
def readArguments (s : List Char) : List (List Char) × List Char :=
  match eat? ':' s with
  | some s =>
    let (raw, after) := takeUntil endsArguments s
    (argumentsOf raw, after)
  | none => ([], s)

/-- The message after `;`, if it follows, and the text after it. -/
def readOptionalMessage (s : List Char) : Except Misread (List Char × List Char) :=
  match eat? ';' s with
  | some s => readMessage s
  | none => .ok ([], s)

/-- One spec as a rule, and the text after it. The text must not begin with
anything that stands between specs. -/
def readSpec (s : List Char) : Except Misread (Rule × List Char) :=
  let (rawName, afterName) := takeUntil endsName s
  let name := nameOf rawName
  if (s.head?.any fun c => c == ':' || c == ';') then .error ⟨.misplacedDelimiter, s⟩
  else if name = [] then .error ⟨.emptyName, s⟩
  else
    let (arguments, afterArguments) := readArguments afterName
    match readOptionalMessage afterArguments with
    | .error e => .error e
    | .ok (message, after) =>
      .ok ((Rule.make (String.ofList name) (arguments.map String.ofList)).withMessage (String.ofList message),
        after)

/-! ### Whole texts -/

theorem closingQuote?_length {quote : Char} {s raw after : List Char}
    (h : closingQuote? quote s = some (raw, after)) : after.length < s.length := by
  fun_induction closingQuote? quote s generalizing raw after with
  | case1 => simp at h
  | case2 => simp_all
  | case3 => simp at h
  | case4 c d rest _ ih =>
    obtain ⟨⟨raw', after'⟩, found, eq⟩ := Option.map_eq_some_iff.1 h
    simp only [Prod.mk.injEq] at eq
    have := ih found
    simp only [← eq.2, List.length_cons]
    omega
  | case5 => simp_all
  | case6 c d rest _ _ ih =>
    obtain ⟨⟨raw', after'⟩, found, eq⟩ := Option.map_eq_some_iff.1 h
    simp only [Prod.mk.injEq] at eq
    have := ih found
    simp only [← eq.2, List.length_cons] at this ⊢
    omega

theorem readMessage_length {s message after : List Char} (h : readMessage s = .ok (message, after)) :
    after.length ≤ s.length := by
  have shorter := (List.dropWhile_sublist (l := s) isAsciiBlank).length_le
  rw [readMessage] at h
  split at h
  · simp_all
  · next c rest eq =>
    rw [eq] at shorter
    split at h
    · split at h
      · next found =>
        have quote := closingQuote?_length found
        simp only [Except.ok.injEq, Prod.mk.injEq] at h
        have tail := (List.dropWhile_sublist (l := ‹List Char›) isAsciiBlank).length_le
        simp only [← h.2, List.length_cons] at *
        omega
      · simp at h
    · have taken := takeUntil_length (· == '|') (c :: rest)
      simp only [Except.ok.injEq, Prod.mk.injEq] at h
      rw [← h.2]
      omega

theorem readArguments_length (s : List Char) : (readArguments s).2.length ≤ s.length := by
  rw [readArguments]
  split
  · next rest found =>
    have eaten := eat?_length found
    have taken := takeUntil_length endsArguments rest
    dsimp only
    omega
  · exact Nat.le_refl _

theorem readOptionalMessage_length {s message after : List Char}
    (h : readOptionalMessage s = .ok (message, after)) : after.length ≤ s.length := by
  rw [readOptionalMessage] at h
  split at h
  · next found =>
    have eaten := eat?_length found
    have := readMessage_length h
    omega
  · simp_all

/-- A spec takes some of the text. -/
theorem readSpec_length {c : Char} {s after : List Char} {rule : Rule}
    (between : isBetweenSpecs c = false) (h : readSpec (c :: s) = .ok (rule, after)) :
    after.length < (c :: s).length := by
  rw [readSpec] at h
  dsimp only at h
  split at h
  · simp at h
  · next delimiter =>
    split at h
    · simp at h
    · split at h
      · simp at h
      · next found =>
        have named : endsName c = false := by
          simp only [List.head?_cons, Option.any_some, Bool.not_eq_true, Bool.or_eq_false_iff] at delimiter
          simp only [isBetweenSpecs, Bool.or_eq_false_iff] at between
          simp [endsName, delimiter.1, delimiter.2, between]
        have h₁ := takeUntil_cons_length endsName c s named
        have h₂ := readArguments_length (takeUntil endsName (c :: s)).2
        have h₃ := readOptionalMessage_length found
        simp only [Except.ok.injEq, Prod.mk.injEq] at h
        rw [← h.2, List.length_cons]
        omega

theorem head_dropWhile {p : Char → Bool} {s rest : List Char} {c : Char}
    (h : s.dropWhile p = c :: rest) : p c = false := by
  induction s with
  | nil => simp at h
  | cons d t ih =>
    by_cases hd : p d
    · exact ih (by simpa [hd] using h)
    · have : d = c := by simp [hd] at h; exact h.1
      simpa [this] using hd

/-- What follows a spec is shorter than the text before it. -/
theorem length_of_readSpec {c : Char} {s rest after : List Char} {rule : Rule}
    (start : s.dropWhile isBetweenSpecs = c :: rest) (found : readSpec (c :: rest) = .ok (rule, after)) :
    after.length < s.length := by
  have taken := readSpec_length (head_dropWhile start) found
  have skipped := (List.dropWhile_sublist (l := s) isBetweenSpecs).length_le
  rw [start] at skipped
  omega

/-- All specs of a text as rules, excluded ones included. -/
def readSpecs (s : List Char) : Except Misread (List Rule) :=
  match _start : s.dropWhile isBetweenSpecs with
  | [] => .ok []
  | c :: rest =>
    match _found : readSpec (c :: rest) with
    | .error e => .error e
    | .ok (rule, after) =>
      match readSpecs after with
      | .error e => .error e
      | .ok rules => .ok (rule :: rules)
termination_by s.length
decreasing_by exact length_of_readSpec _start _found

/-- The specs that are left out: those whose name starts with a slash. -/
def isExcluded (rule : Rule) : Bool := rule.name.toList.head? == some '/'

/-- The names of the specs that are left out, up to the first fault. -/
def excludedNames (s : List Char) : List String :=
  match _start : s.dropWhile isBetweenSpecs with
  | [] => []
  | c :: rest =>
    match _found : readSpec (c :: rest) with
    | .error _ => []
    | .ok (rule, after) => if isExcluded rule then rule.name :: excludedNames after else excludedNames after
termination_by s.length
decreasing_by all_goals exact length_of_readSpec _start _found

end RecordRules.RuleText

namespace RecordRules.Rule

/-- Messages are kept for validations only. -/
def forKind (kind : RuleKind) (rule : Rule) : Rule :=
  match kind with
  | .sanitization => rule.withoutMessage
  | .validation => rule

/-- The rules of a text. A text without any spec is a fault at its start. -/
def parse (kind : RuleKind) (text : String) : Except RuleTextError (List Rule) :=
  match RuleText.readSpecs text.toList with
  | .error e =>
    .error ⟨text, Text.byteLength text.toList - Text.byteLength e.rest, e.fault⟩
  | .ok [] => .error ⟨text, 0, .noRule⟩
  | .ok specs => .ok ((specs.filter fun rule => !RuleText.isExcluded rule).map (forKind kind))

end RecordRules.Rule
