/-
Labels of field ids.

* `Label.round`, `Label.scan`: the scan of an id, one separator or one word in each round;
  `Label.scan_eq_words` says that it comes to its end, and what it has found then;
* `Label.Form`: the forms that words have;
* `Label.Divided`: an id as its separators and its words in order, which is what a scan
  finds (`Label.divided_words`);
* `Label.words_intercalate`: words in these forms, with spaces between them, are found
  again as they are;
* `Label.humanize_spec`: the label of an id, and that of a label.
-/
import RecordRules.Label
import RecordRules.Proofs.Text.Percent
import RecordRules.Proofs.Text.Trimming

namespace RecordRules.Label

variable {c : Char} {s w rest : List Char} {ws : List (List Char)}

/-! ### Runs -/

/-- The characters between words: white space, `_` and `-`. -/
def isSeparator (c : Char) : Bool := Text.isBlank c || c == '_' || c == '-'

lemma kindOf_eq_separator_iff : kindOf c = .separator ↔ isSeparator c = true := by
  rw [kindOf, isSeparator]
  split
  · next here => exact ⟨fun _ => here, fun _ => rfl⟩
  · next outside =>
    refine ⟨fun same => absurd same ?_, fun here => absurd here outside⟩
    split
    · exact nofun
    · split <;> exact nofun

lemma run_append (kind : CharKind) (s : List Char) : (run kind s).1 ++ (run kind s).2 = s :=
  List.takeWhile_append_dropWhile

lemma kindOf_of_mem_run {kind : CharKind} : ∀ d ∈ (run kind s).1, kindOf d = kind :=
  fun _ mem => eq_of_beq (List.mem_takeWhile_imp (p := (kindOf · == kind)) mem)

/-- A run ends where a character of another kind follows. -/
lemma run_append_of (kind : CharKind) (all : ∀ d ∈ w, kindOf d = kind) (stops : ∀ d ∈ rest.head?, kindOf d ≠ kind) :
    run kind (w ++ rest) = (w, rest) := by
  have outside : Text.StartsOutside (kindOf · == kind) rest := fun d first => by simpa using stops d first
  have inside : ∀ d ∈ w, (kindOf d == kind) = true := fun d mem => by simpa using all d mem
  rw [run, outside.takeWhile_append inside, outside.dropWhile_append inside]

lemma run_of_stops (kind : CharKind) (stops : ∀ d ∈ rest.head?, kindOf d ≠ kind) : run kind rest = ([], rest) :=
  run_append_of kind (List.forall_mem_nil _) stops

/-! ### Words -/

/-- The forms of words: characters of one kind, or a capital before lower-case letters. -/
inductive Form : List Char → Prop where
  | alike (kind : CharKind) {w : List Char} (apart : kind ≠ .separator) (some_char : w ≠ [])
      (all : ∀ d ∈ w, kindOf d = kind) : Form w
  | capitalized {c : Char} {w : List Char} (upper : kindOf c = .upper) (lower : ∀ d ∈ w, kindOf d = .lower) :
      Form (c :: w)

lemma Form.ne_nil (form : Form w) : w ≠ [] := by
  cases form with
  | alike _ _ some_char => exact some_char
  | capitalized => exact List.cons_ne_nil _ _

lemma Form.not_isSeparator (form : Form w) : ∀ d ∈ w, isSeparator d = false := by
  have apart : ∀ d ∈ w, kindOf d ≠ .separator := by
    cases form with
    | alike kind apart _ all => exact fun d mem => all d mem ▸ apart
    | capitalized upper lower =>
      refine List.forall_mem_cons.mpr ⟨by simp [upper], fun d mem => by simp [lower d mem]⟩
  exact fun d mem => Bool.eq_false_iff.mpr (mt kindOf_eq_separator_iff.mpr (apart d mem))

/-- A capital is the first character of the word that is taken off, which leaves what
follows it; the last capital before a lower-case letter is left as well. -/
lemma capitalWord_spec (upper : kindOf c = .upper) (rest : List Char) :
    (capitalWord c rest).1 ++ (capitalWord c rest).2 = c :: rest ∧ Form (capitalWord c rest).1 := by
  have parts := run_append .upper rest
  have capitals : ∀ d ∈ c :: (run .upper rest).1, kindOf d = .upper :=
    List.forall_mem_cons.mpr ⟨upper, kindOf_of_mem_run⟩
  rw [capitalWord]
  dsimp only
  cases found : (run .upper rest).1.getLast? with
  | none =>
    rw [List.getLast?_eq_none_iff.mp found, List.nil_append] at parts
    rw [parts]
    exact ⟨congrArg (c :: ·) (run_append .lower rest), .capitalized upper kindOf_of_mem_run⟩
  | some last =>
    have before := List.dropLast_append_getLast? last found
    have apart : CharKind.upper ≠ .separator := by decide
    dsimp only
    split
    · refine ⟨?_, .alike .upper apart (List.cons_ne_nil _ _) fun d mem => capitals d ?_⟩
      · rw [List.cons_append, List.append_cons, before, parts]
      · exact List.cons_subset_cons c (List.dropLast_subset _) mem
    · exact ⟨congrArg (c :: ·) parts, .alike .upper apart (List.cons_ne_nil _ _) capitals⟩

/-! ### The scan -/

/-- One round of the scan at a character of a kind: the word that it finds, unless the
character is a separator, and what is left. -/
def roundAt (c : Char) (rest : List Char) : CharKind → Option (List Char) × List Char
  | .separator => (none, rest)
  | .upper => (some (capitalWord c rest).1, (capitalWord c rest).2)
  | kind => (some (c :: (run kind rest).1), (run kind rest).2)

/-- One round of the scan. -/
def round (c : Char) (rest : List Char) : Option (List Char) × List Char := roundAt c rest (kindOf c)

/-- The words that a scan finds in at most so many rounds; `none` if there is something left
after them. -/
def scan : Nat → List Char → Option (List (List Char))
  | _, [] => some []
  | 0, _ :: _ => none
  | rounds + 1, c :: rest => (scan rounds (round c rest).2).map ((round c rest).1.toList ++ ·)

lemma round_eq {kind : CharKind} (same : kindOf c = kind) (rest : List Char) : round c rest = roundAt c rest kind := by
  rw [round, same]

/-- A round takes a separator, or a word in one of the forms. -/
lemma round_cases (c : Char) (rest : List Char) :
    isSeparator c = true ∧ round c rest = (none, rest) ∨
      ∃ w after, round c rest = (some w, after) ∧ w ++ after = c :: rest ∧ Form w := by
  have alike : ∀ kind, kindOf c = kind → kind ≠ .separator →
      (c :: (run kind rest).1) ++ (run kind rest).2 = c :: rest ∧ Form (c :: (run kind rest).1) := by
    intro kind same apart
    have all : ∀ d ∈ c :: (run kind rest).1, kindOf d = kind := List.forall_mem_cons.mpr ⟨same, kindOf_of_mem_run⟩
    exact ⟨congrArg (c :: ·) (run_append kind rest), .alike kind apart (List.cons_ne_nil _ _) all⟩
  cases same : kindOf c with
  | separator => exact .inl ⟨kindOf_eq_separator_iff.mp same, round_eq same rest⟩
  | upper => exact .inr ⟨_, _, round_eq same rest, capitalWord_spec same rest⟩
  | lower => exact .inr ⟨_, _, round_eq same rest, alike .lower same nofun⟩
  | other => exact .inr ⟨_, _, round_eq same rest, alike .other same nofun⟩

/-- Every round makes progress, also the one that steps back to a capital. -/
lemma length_round_le (c : Char) (rest : List Char) : (round c rest).2.length ≤ rest.length := by
  rcases round_cases c rest with ⟨-, found⟩ | ⟨w, after, found, parts, form⟩
  · rw [found]
  · have total := congrArg List.length parts
    have some_char := List.length_pos_iff.mpr form.ne_nil
    rw [List.length_append, List.length_cons] at total
    rw [found]
    dsimp only
    omega

lemma words_nil : words [] = [] := words.eq_def []

lemma words_cons (c : Char) (rest : List Char) :
    words (c :: rest) = (round c rest).1.toList ++ words (round c rest).2 := by
  refine (words.eq_def (c :: rest)).trans ?_
  rw [round]
  dsimp only
  -- only the kind of the character counts, not how it is found
  generalize kindOf c = kind
  cases kind <;> rfl

/-- A scan comes to its end in at most as many rounds as there are characters. -/
lemma scan_eq_words {rounds : Nat} (enough : s.length ≤ rounds) : scan rounds s = some (words s) := by
  induction rounds generalizing s with
  | zero =>
    rw [List.length_eq_zero_iff.mp (Nat.le_zero.mp enough), scan, words_nil]
  | succ rounds ih =>
    cases s with
    | nil => rw [scan, words_nil]
    | cons c rest =>
      rw [List.length_cons] at enough
      have shorter := length_round_le c rest
      rw [scan, ih (by omega), words_cons, Option.map_some]

/-- A text as separators and words in order. -/
inductive Divided : List Char → List (List Char) → Prop where
  | nil : Divided [] []
  | separator {c : Char} {rest : List Char} {ws : List (List Char)} (here : isSeparator c = true)
      (behind : Divided rest ws) : Divided (c :: rest) ws
  | word {w rest : List Char} {ws : List (List Char)} (form : Form w) (behind : Divided rest ws) :
      Divided (w ++ rest) (w :: ws)

lemma divided_of_scan {rounds : Nat} (found : scan rounds s = some ws) : Divided s ws := by
  induction rounds generalizing s ws with
  | zero =>
    cases s with
    | nil =>
      cases found
      exact .nil
    | cons => cases found
  | succ rounds ih =>
    cases s with
    | nil =>
      cases found
      exact .nil
    | cons c rest =>
      rw [scan] at found
      obtain ⟨others, later, rfl⟩ := Option.map_eq_some_iff.mp found
      rcases round_cases c rest with ⟨here, left⟩ | ⟨w, after, left, parts, form⟩
      · rw [left] at later ⊢
        exact .separator here (ih later)
      · rw [left] at later ⊢
        rw [← parts]
        exact .word form (ih later)

lemma divided_words (s : List Char) : Divided s (words s) := divided_of_scan (scan_eq_words le_rfl)

namespace Divided

lemma form (h : Divided s ws) : ∀ w ∈ ws, Form w := by
  induction h with
  | nil => exact nofun
  | separator _ _ ih => exact ih
  | word form _ ih => exact List.forall_mem_cons.mpr ⟨form, ih⟩

/-- Nothing but separators is lost. -/
lemma flatten_eq (h : Divided s ws) : ws.flatten = s.filter fun c => !isSeparator c := by
  induction h with
  | nil => rfl
  | separator here _ ih => rw [List.filter_cons_of_neg (by simp [here]), ih]
  | word form _ ih =>
    have kept := List.filter_eq_self.mpr fun d mem => Bool.not_eq_true' _ ▸ form.not_isSeparator d mem
    rw [List.flatten_cons, ih, List.filter_append, kept]

/-- Words stand in the text as they are. -/
lemma isInfix (h : Divided s ws) : ∀ w ∈ ws, w <:+: s := by
  induction h with
  | nil => exact nofun
  | separator _ _ ih => exact fun w mem => List.infix_cons (ih w mem)
  | @word v rest _ _ _ ih =>
    refine List.forall_mem_cons.mpr ⟨(List.prefix_append v rest).isInfix, fun w mem => ?_⟩
    exact (ih w mem).trans (List.suffix_append v rest).isInfix

end Divided

/-! ### Words that are found again -/

/-- A single capital takes the lower-case letters behind it. -/
lemma capitalWord_single (single : run .upper rest = ([], rest)) :
    capitalWord c rest = (c :: (run .lower rest).1, (run .lower rest).2) := by
  rw [capitalWord, single]
  rfl

/-- Several capitals are a word if no lower-case letter follows. -/
lemma capitalWord_several {after : List Char} (several : run .upper rest = (w, after)) (some_char : w ≠ [])
    (stops : ∀ d ∈ after.head?, kindOf d ≠ .lower) : capitalWord c rest = (c :: w, after) := by
  have no_lower : after.head?.any (kindOf · == .lower) = false := by
    rw [← Bool.not_eq_true, Option.any_eq_true]
    exact fun ⟨d, first, lower⟩ => stops d first (eq_of_beq lower)
  rw [capitalWord, several]
  dsimp only
  rw [List.getLast?_eq_some_getLast some_char]
  dsimp only
  rw [no_lower]
  rfl

/-- A word in one of the forms is found as it is where a separator or nothing follows. -/
lemma round_of_form (form : Form (c :: w)) (stops : ∀ d ∈ rest.head?, kindOf d = .separator) :
    round c (w ++ rest) = (some (c :: w), rest) := by
  have stops_run : ∀ kind, kind ≠ .separator → ∀ d ∈ rest.head?, kindOf d ≠ kind :=
    fun kind apart d first same => apart (same.symm.trans (stops d first))
  generalize whole : c :: w = v at form
  cases form with
  | alike kind apart some_char all =>
    subst whole
    obtain ⟨first, others⟩ := List.forall_mem_cons.mp all
    have taken := run_append_of kind others (stops_run kind apart)
    rw [round_eq first]
    cases kind with
    | separator => exact absurd rfl apart
    | lower | other =>
      dsimp only [roundAt]
      rw [taken]
    | upper =>
      dsimp only [roundAt]
      by_cases single : w = []
      · subst single
        rw [List.nil_append] at taken
        rw [List.nil_append, capitalWord_single taken, run_of_stops .lower (stops_run .lower nofun)]
      · rw [capitalWord_several taken single (stops_run .lower nofun)]
  | capitalized upper lower =>
    obtain ⟨rfl, rfl⟩ := List.cons.inj whole
    have no_upper : ∀ d ∈ (w ++ rest).head?, kindOf d ≠ .upper := by
      cases w with
      | nil => exact stops_run .upper nofun
      | cons d w =>
        rintro _ ⟨⟩
        rw [lower d List.mem_cons_self]
        exact nofun
    rw [round_eq upper, roundAt, capitalWord_single (run_of_stops .upper no_upper),
      run_append_of .lower lower (stops_run .lower nofun)]

lemma words_append (form : Form w) (stops : ∀ d ∈ rest.head?, kindOf d = .separator) :
    words (w ++ rest) = w :: words rest := by
  obtain ⟨c, w, rfl⟩ := List.exists_cons_of_ne_nil form.ne_nil
  rw [List.cons_append, words_cons, round_of_form form stops, Option.toList_some, List.singleton_append]

lemma words_cons_space (s : List Char) : words (' ' :: s) = words s := by
  have here : kindOf ' ' = .separator := by decide
  rw [words_cons, round_eq here, roundAt, Option.toList_none, List.nil_append]

/-- Words with spaces between them are found as they are. -/
lemma words_intercalate (forms : ∀ w ∈ ws, Form w) : words ([' '].intercalate ws) = ws := by
  induction ws with
  | nil => exact words_nil
  | cons w ws ih =>
    obtain ⟨form, others⟩ := List.forall_mem_cons.mp forms
    cases ws with
    | nil =>
      have nothing : ∀ d ∈ ([] : List Char).head?, kindOf d = .separator := nofun
      have alone := words_append form nothing
      rw [List.append_nil, words_nil] at alone
      rw [List.intercalate_singleton, alone]
    | cons v ws =>
      have stops : ∀ d ∈ (' ' :: [' '].intercalate (v :: ws)).head?, kindOf d = .separator := by
        rintro _ ⟨⟩
        decide
      rw [List.intercalate_cons_cons, List.append_assoc, List.singleton_append, words_append form stops,
        words_cons_space, ih others]

/-! ### Capitals -/

lemma lookup_upperExpansions_ne {n : Nat} {codes : List Nat} (found : upperExpansions.lookup n = some codes) :
    codes ≠ [] := by
  have all : ∀ entry ∈ upperExpansions, entry.2 ≠ [] := by decide
  generalize upperExpansions = table at all found
  obtain ⟨before, after, rfl, -⟩ := List.lookup_eq_some_iff.mp found
  exact all (n, codes) (List.mem_append_right before List.mem_cons_self)

lemma upperChar_ne_nil (c : Char) : Text.upperChar c ≠ [] := by
  rw [Text.upperChar]
  split
  · exact List.cons_ne_nil _ _
  · cases expansion : upperExpansions.lookup c.toNat with
    | some codes => exact mt List.map_eq_nil_iff.mp (lookup_upperExpansions_ne expansion)
    | none =>
      -- the map is left closed, whatever it answers
      generalize upperMap.image? c.toNat = image
      cases image <;> exact List.cons_ne_nil _ _

lemma capitalize_ne_nil (some_char : w ≠ []) : Text.capitalize w ≠ [] := by
  obtain ⟨c, w, rfl⟩ := List.exists_cons_of_ne_nil some_char
  exact List.append_ne_nil_of_left_ne_nil (upperChar_ne_nil c) w

lemma capitalize_cons_ascii (ascii : c.toNat < 128) (w : List Char) :
    Text.capitalize (c :: w) = c.toUpper :: w := by
  rw [Text.capitalize, Text.upperChar, if_pos ascii, List.singleton_append]

/-- An ASCII character has one capital, which is one character and its own capital. -/
lemma toUpper_ascii (ascii : c.toNat < 128) :
    kindOf c.toUpper = (if kindOf c = .lower then .upper else kindOf c) ∧ c.toUpper.toNat < 128 ∧
      c.toUpper.toUpper = c.toUpper :=
  Percent.forall_ascii (P := fun c => kindOf c.toUpper = (if kindOf c = .lower then .upper else kindOf c) ∧
    c.toUpper.toNat < 128 ∧ c.toUpper.toUpper = c.toUpper) (by decide +kernel) ascii

/-- With a capital a word in ASCII has one of the forms again, and its capital. -/
lemma form_capitalize (form : Form w) (ascii : ∀ d ∈ w, d.toNat < 128) :
    Form (Text.capitalize w) ∧ Text.capitalize (Text.capitalize w) = Text.capitalize w := by
  obtain ⟨c, v, rfl⟩ := List.exists_cons_of_ne_nil form.ne_nil
  have first_ascii := ascii c List.mem_cons_self
  obtain ⟨kind_capital, capital_ascii, settled⟩ := toUpper_ascii first_ascii
  rw [capitalize_cons_ascii first_ascii, capitalize_cons_ascii capital_ascii, settled]
  refine ⟨?_, rfl⟩
  generalize whole : c :: v = w at form
  cases form with
  | alike kind apart some_char all =>
    subst whole
    obtain ⟨first, others⟩ := List.forall_mem_cons.mp all
    rw [first] at kind_capital
    by_cases lower : kind = .lower
    · rw [if_pos lower] at kind_capital
      exact .capitalized kind_capital (lower ▸ others)
    · rw [if_neg lower] at kind_capital
      exact .alike kind apart (List.cons_ne_nil _ _) (List.forall_mem_cons.mpr ⟨kind_capital, others⟩)
  | capitalized upper lower =>
    obtain ⟨rfl, rfl⟩ := List.cons.inj whole
    rw [upper, if_neg nofun] at kind_capital
    exact .capitalized kind_capital lower

/-- The label of a label is the label, if capitals keep the forms of its words. -/
lemma humanizeChars_humanizeChars
    (settled : ∀ w ∈ words s, Form (Text.capitalize w) ∧ Text.capitalize (Text.capitalize w) = Text.capitalize w) :
    humanizeChars (humanizeChars s) = humanizeChars s := by
  have forms : ∀ w ∈ (words s).map Text.capitalize, Form w := List.forall_mem_map.mpr fun w mem => (settled w mem).1
  have same : ((words s).map Text.capitalize).map Text.capitalize = (words s).map Text.capitalize := by
    rw [List.map_map]
    exact List.map_congr_left fun w mem => (settled w mem).2
  rw [humanizeChars, humanizeChars, words_intercalate forms, same]

/-- **Labels of ids.** The scan of an id comes to its end in at most as many rounds as the
id has characters. The id is the words that it finds, one after another, with nothing but
separators between them. The words are not empty and stand in the id as they are, and in
their order they are the id without its separators. The label is these words, each with its
first character in upper case, joined by single spaces. The label of the label of an ASCII
id is that label. -/
theorem humanize_spec (id : String) :
    ∃ groups, scan id.toList.length id.toList = some groups ∧ Divided id.toList groups ∧
      (∀ group ∈ groups, group ≠ [] ∧ group <:+: id.toList ∧ Text.capitalize group ≠ []) ∧
      groups.flatten = id.toList.filter (fun c => !(Text.isBlank c || c == '_' || c == '-')) ∧
      (humanize id).toList = [' '].intercalate (groups.map Text.capitalize) ∧
      ((∀ c ∈ id.toList, c.toNat < 128) → humanize (humanize id) = humanize id) := by
  have divided := divided_words id.toList
  refine ⟨words id.toList, scan_eq_words le_rfl, divided, fun group mem => ?_, divided.flatten_eq, ?_, fun ascii => ?_⟩
  · have some_char := (divided.form group mem).ne_nil
    exact ⟨some_char, divided.isInfix group mem, capitalize_ne_nil some_char⟩
  · rw [humanize, String.toList_ofList]
    rfl
  · have settled := humanizeChars_humanizeChars fun w mem =>
      form_capitalize (divided.form w mem) fun d inside => ascii d ((divided.isInfix w mem).subset inside)
    rw [humanize, humanize, String.toList_ofList, settled]

/-- An id with several capitals, one of which begins the next word, and with separators of
all kinds. -/
theorem humanize_spec_capitals :
    scan 21 "parseHTTPBody__v2-rc ".toList =
        some ["parse".toList, "HTTP".toList, "Body".toList, ['v'], ['2'], "rc".toList] ∧
      humanize "parseHTTPBody__v2-rc " = "Parse HTTP Body V 2 Rc" ∧
      humanize "Parse HTTP Body V 2 Rc" = "Parse HTTP Body V 2 Rc" := by
  obtain ⟨groups, found, -, -, -, label, again⟩ := humanize_spec "parseHTTPBody__v2-rc "
  have scanned : scan 21 "parseHTTPBody__v2-rc ".toList =
      some ["parse".toList, "HTTP".toList, "Body".toList, ['v'], ['2'], "rc".toList] := by
    decide +kernel
  cases found.symm.trans scanned
  have named : humanize "parseHTTPBody__v2-rc " = "Parse HTTP Body V 2 Rc" := by
    rw [← String.toList_inj, label]
    decide +kernel
  have ascii : "parseHTTPBody__v2-rc ".toList.all (·.toNat < 128) = true := by decide +kernel
  have settled := again fun c mem => of_decide_eq_true (List.all_eq_true.mp ascii c mem)
  rw [named] at settled
  exact ⟨scanned, named, settled⟩

end RecordRules.Label
