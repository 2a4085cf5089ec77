/-
Labels made from field ids.

* `Label.words`: the words of an id, divided at white space, `_` and `-`, at
  changes of case, and between letters and other characters;
* `Label.humanize`: the words with capitals, separated by single spaces.
-/
import RecordRules.Text.Blank
import RecordRules.Text.Case

namespace RecordRules.Label

/-- The part that a character plays in an id. -/
inductive CharKind where
  | separator
  | upper
  | lower
  | other
  deriving DecidableEq, Repr

/-- The part of a character: white space, `_` and `-` separate words. -/
def kindOf (c : Char) : CharKind :=
  if Text.isBlank c || c == '_' || c == '-' then .separator
  else if Text.isUpper c then .upper
  else if Text.isLower c then .lower
  else .other

/-- The longest run of characters of one kind, and what follows it. -/
def run (kind : CharKind) (s : List Char) : List Char × List Char :=
  (s.takeWhile (kindOf · == kind), s.dropWhile (kindOf · == kind))

/-- The first word of an id that begins with the capital `c`, and what follows
it. A single capital takes the lower-case letters after it. The last one of
several capitals begins the next word if a lower-case letter follows. -/
def capitalWord (c : Char) (rest : List Char) : List Char × List Char :=
  let (capitals, after) := run .upper rest
  match capitals.getLast? with
  | none =>
    let (lowers, after) := run .lower after
    (c :: lowers, after)
  | some last =>
    if after.head?.any (kindOf · == .lower) then (c :: capitals.dropLast, last :: after)
    else (c :: capitals, after)

theorem run_length (kind : CharKind) (s : List Char) :
    (run kind s).1.length + (run kind s).2.length = s.length := by
  have := congrArg List.length (List.takeWhile_append_dropWhile (p := (kindOf · == kind)) (l := s))
  rwa [List.length_append] at this

theorem capitalWord_length (c : Char) (rest : List Char) :
    (capitalWord c rest).2.length ≤ rest.length := by
  have upper := run_length .upper rest
  rw [capitalWord]
  dsimp only
  split
  · have lower := run_length .lower (run .upper rest).2
    dsimp only
    omega
  · next last found =>
    have := List.length_pos_iff.2 (List.getLast?_isSome.1 (Option.isSome_of_mem found))
    split
    · simp only [List.length_cons]
      omega
    · dsimp only
      omega

/-- The words of an id as groups of its characters. -/
def words : List Char → List (List Char)
  | [] => []
  | c :: rest =>
    match kindOf c with
    | .separator => words rest
    | .upper => (capitalWord c rest).1 :: words (capitalWord c rest).2
    | kind => (c :: (run kind rest).1) :: words (run kind rest).2
termination_by s => s.length
decreasing_by
  · simp
  · have := capitalWord_length c rest
    simp only [List.length_cons]
    omega
  · have := run_length kind rest
    simp only [List.length_cons]
    omega

/-- The label of a field id. -/
def humanizeChars (id : List Char) : List Char :=
  List.intercalate [' '] ((words id).map Text.capitalize)

/-- The label of a field id. -/
def humanize (id : String) : String := String.ofList (humanizeChars id.toList)

end RecordRules.Label
