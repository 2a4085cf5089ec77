/-
Reading rule texts by the bytes of their UTF-8 form.

The place of this reader is a byte offset. It goes from byte to byte, two at a time
over an escape, and cuts out what stands between two places.

* `RuleText.part`: what stands between two places, unless one of them is inside a
  character or behind the end;
* `RuleText.hits`: the bytes that a scan finds;
* `RuleText.readSpecAt`, `RuleText.readSpecsAt`: one spec, all specs;
* `RuleText.lt_of_readSpecAt`: a spec takes the reader further, so that it comes to an
  end;
* `Rule.parseBytes`: the rules of a text.
-/
import RecordRules.Rule.Reader
import RecordRules.Text.Percent

namespace RecordRules.RuleText

open Text

/-! ### Bytes and parts -/

/-- The bytes that are an ASCII character in `p`. -/
def onByte (p : Char → Bool) (b : UInt8) : Bool := decide (b.toNat < 128) && p (Percent.asciiChar b)

/-- The bytes from a place on. -/
def bytesFrom (text : List Char) (place : Nat) : List UInt8 := (utf8Bytes text).drop place

/-- A byte in `p` stands at a place. -/
def isAt (p : Char → Bool) (text : List Char) (place : Nat) : Bool :=
  (bytesFrom text place).head?.any (onByte p)

/-- What stands between two places. Both have to be at the boundary of a character, or
else the text would be divided inside of one. -/
def part (text : List Char) (start stop : Nat) : Except Fault (List Char) :=
  match splitAtByte? stop text with
  | none => .error .insideCharacter
  | some (front, _) =>
    match splitAtByte? start front with
    | none => .error .insideCharacter
    | some (_, inner) => .ok inner

/-! ### Scans -/

/-- The places of the bytes that are found and not escaped. Whether a byte is found may
depend on the bytes behind it. -/
def hits (found : UInt8 → List UInt8 → Bool) (place : Nat) : List UInt8 → List Nat
  | [] => []
  | [b] => if found b [] then [place] else []
  | b :: d :: rest =>
    if onByte (· == '\\') b ∧ onByte isEscapable d then hits found (place + 2) rest
    else if found b (d :: rest) then place :: hits found (place + 1) (d :: rest)
    else hits found (place + 1) (d :: rest)

/-- After optional ASCII white space the bytes or the spec end. -/
def endsSpecAt (bytes : List UInt8) : Bool :=
  match bytes.dropWhile (onByte isAsciiBlank) with
  | [] => true
  | b :: _ => onByte (· == '|') b

/-- The place behind the bytes in `p`. -/
def skip (p : Char → Bool) (text : List Char) (place : Nat) : Nat :=
  place + ((bytesFrom text place).takeWhile (onByte p)).length

/-- The place of the first byte in `stop` that is not escaped, or the end. -/
def untilStop (stop : Char → Bool) (text : List Char) (place : Nat) : Nat :=
  (hits (fun b _ => onByte stop b) place (bytesFrom text place)).head?.getD (utf8Bytes text).length

/-- The text up to the first byte in `stop` that is not escaped, and the place of that
byte. -/
def take (stop : Char → Bool) (text : List Char) (place : Nat) : Except Fault (List Char × Nat) :=
  (part text place (untilStop stop text place)).map (·, untilStop stop text place)

/-! ### The parts of a spec -/

/-- A fault of a rule text at a place. -/
def misread (text : List Char) (place : Nat) (fault : RuleTextFault) : Fault :=
  .grammar ⟨String.ofList text, place, fault⟩

/-- The parts of a text before, between and behind the commas at the given places. -/
def partsBetween (raw : List Char) (start : Nat) : List Nat → Except Fault (List (List Char))
  | [] => (part raw start (utf8Bytes raw).length).map ([·])
  | comma :: more =>
    match part raw start comma with
    | .error fault => .error fault
    | .ok piece => (partsBetween raw (comma + 1) more).map (piece :: ·)

/-- The arguments that a raw text stands for; a blank text stands for none. -/
def argumentsOfBytes (raw : List Char) : Except Fault (List (List Char)) :=
  if isAllBlank raw then .ok []
  else
    (partsBetween raw 0 (hits (fun b _ => onByte (· == ',') b) 0 (utf8Bytes raw))).map
      (·.map fun piece => trim (unescape (trim piece)))

/-- The arguments after `:`, if it stands there, and the place behind them. -/
def readArgumentsAt (text : List Char) (place : Nat) : Except Fault (List (List Char) × Nat) :=
  if isAt (· == ':') text place then
    match take endsArguments text (place + 1) with
    | .error fault => .error fault
    | .ok (raw, next) => (argumentsOfBytes raw).map (·, next)
  else .ok ([], place)

/-- The place of the closing quote: the first one that is not escaped and ends the
spec. -/
def closingAt? (quote : Char) (text : List Char) (place : Nat) : Option Nat :=
  (hits (fun b rest => onByte (· == quote) b && endsSpecAt rest) place (bytesFrom text place)).head?

/-- The message in the quotes that begin at a place, and the place behind it. -/
def readQuotedAt (quote : Char) (text : List Char) (place : Nat) : Except Fault (List Char × Nat) :=
  match closingAt? quote text (place + 1) with
  | none => .error (misread text place .unterminatedMessage)
  | some closing =>
    (part text (place + 1) closing).map fun raw => (unescape raw, skip isAsciiBlank text (closing + 1))

/-- The message after `;` and the place behind it. -/
def readMessageAt (text : List Char) (place : Nat) : Except Fault (List Char × Nat) :=
  let start := skip isAsciiBlank text place
  if isAt (· == '\'') text start then readQuotedAt '\'' text start
  else if isAt (· == '"') text start then readQuotedAt '"' text start
  else (take (· == '|') text start).map fun (raw, next) => (trim (unescape raw), next)

/-- The message after `;`, if it stands there, and the place behind it. -/
def readOptionalMessageAt (text : List Char) (place : Nat) : Except Fault (List Char × Nat) :=
  if isAt (· == ';') text place then readMessageAt text (place + 1) else .ok ([], place)

/-- One spec as a rule, and the place behind it. -/
def readSpecAt (text : List Char) (place : Nat) : Except Fault (Rule × Nat) :=
  if isAt (fun c => c == ':' || c == ';') text place then .error (misread text place .misplacedDelimiter)
  else
    match take endsName text place with
    | .error fault => .error fault
    | .ok (rawName, afterName) =>
      let name := nameOf rawName
      if name = [] then .error (misread text place .emptyName)
      else
        match readArgumentsAt text afterName with
        | .error fault => .error fault
        | .ok (arguments, afterArguments) =>
          (readOptionalMessageAt text afterArguments).map fun (message, next) =>
            ((Rule.make (String.ofList name) (arguments.map String.ofList)).withMessage
              (String.ofList message), next)

/-! ### Progress -/

variable {text : List Char} {place next : Nat}

theorem map_eq_ok {α β : Type} {x : Except Fault α} {f : α → β} {b : β} (h : x.map f = .ok b) :
    ∃ a, x = .ok a ∧ f a = b := by
  cases x with
  | error fault => cases h
  | ok a => exact ⟨a, rfl, Except.ok.inj h⟩

theorem le_of_mem_hits {found : UInt8 → List UInt8 → Bool} {bytes : List UInt8} {hit : Nat}
    (mem : hit ∈ hits found place bytes) : place ≤ hit := by
  fun_induction hits found place bytes with
  | case1 => cases mem
  | case2 => exact Nat.le_of_eq (List.mem_singleton.mp mem).symm
  | case3 => cases mem
  | case4 place b d rest escape ih =>
    have later := ih mem
    omega
  | case5 place b d rest plain here ih =>
    rcases List.mem_cons.mp mem with rfl | mem
    · exact Nat.le_refl _
    · have later := ih mem
      omega
  | case6 place b d rest plain other ih =>
    have later := ih mem
    omega

/-- Unless the first byte is found, the hits are behind it. -/
theorem lt_of_mem_hits {found : UInt8 → List UInt8 → Bool} {b : UInt8} {rest : List UInt8} {hit : Nat}
    (other : found b rest = false) (mem : hit ∈ hits found place (b :: rest)) : place < hit := by
  cases rest with
  | nil =>
    rw [hits, other] at mem
    cases mem
  | cons d more =>
    rw [hits, other] at mem
    split at mem
    · have later := le_of_mem_hits mem
      omega
    · have later := le_of_mem_hits mem
      omega

theorem le_of_part {start stop : Nat} {inner : List Char} (h : part text start stop = .ok inner) :
    start ≤ stop := by
  rw [part] at h
  split at h
  · cases h
  · next front back outer =>
    split at h
    · cases h
    · next skipped inner' cut =>
      have whole := (eq_append_of_splitAtByte? outer).2
      have inner := eq_append_of_splitAtByte? cut
      rw [inner.1, byteLength_append, inner.2] at whole
      omega

theorem le_of_take {stop : Char → Bool} {raw : List Char} (h : take stop text place = .ok (raw, next)) :
    place ≤ next := by
  obtain ⟨inner, cut, eq⟩ := map_eq_ok h
  cases eq
  exact le_of_part cut

/-- Something is taken unless a delimiter or the end stands at the place. -/
theorem lt_of_take {stop : Char → Bool} {b : UInt8} {rest : List UInt8} {raw : List Char}
    (begins : bytesFrom text place = b :: rest) (plain : onByte stop b = false)
    (h : take stop text place = .ok (raw, next)) : place < next := by
  obtain ⟨inner, cut, eq⟩ := map_eq_ok h
  cases eq
  rw [untilStop, begins]
  cases found : (hits (fun b _ => onByte stop b) place (b :: rest)).head? with
  | none =>
    have inside : (bytesFrom text place).length ≠ 0 := by simp [begins]
    rw [bytesFrom, List.length_drop] at inside
    rw [Option.getD_none]
    omega
  | some hit => exact lt_of_mem_hits plain (List.mem_of_head? found)

theorem le_skip (p : Char → Bool) (text : List Char) (place : Nat) : place ≤ skip p text place :=
  Nat.le_add_right _ _

theorem le_of_readArgumentsAt {arguments : List (List Char)}
    (h : readArgumentsAt text place = .ok (arguments, next)) : place ≤ next := by
  rw [readArgumentsAt] at h
  split at h
  · split at h
    · cases h
    · next raw next' taken =>
      obtain ⟨_, -, eq⟩ := map_eq_ok h
      cases eq
      have further := le_of_take taken
      omega
  · cases h
    exact Nat.le_refl _

theorem le_of_readQuotedAt {quote : Char} {message : List Char}
    (h : readQuotedAt quote text place = .ok (message, next)) : place ≤ next := by
  rw [readQuotedAt] at h
  split at h
  · cases h
  · next closing found =>
    obtain ⟨raw, cut, eq⟩ := map_eq_ok h
    cases eq
    have inner := le_of_part cut
    have behind := le_skip isAsciiBlank text (closing + 1)
    omega

theorem le_of_readMessageAt {message : List Char} (h : readMessageAt text place = .ok (message, next)) :
    place ≤ next := by
  have start := le_skip isAsciiBlank text place
  rw [readMessageAt] at h
  dsimp only at h
  split at h
  · exact Nat.le_trans start (le_of_readQuotedAt h)
  · split at h
    · exact Nat.le_trans start (le_of_readQuotedAt h)
    · obtain ⟨⟨raw, next'⟩, taken, eq⟩ := map_eq_ok h
      cases eq
      exact Nat.le_trans start (le_of_take taken)

theorem le_of_readOptionalMessageAt {message : List Char}
    (h : readOptionalMessageAt text place = .ok (message, next)) : place ≤ next := by
  rw [readOptionalMessageAt] at h
  split at h
  · have further := le_of_readMessageAt h
    omega
  · cases h
    exact Nat.le_refl _

/-- A spec takes the reader further, unless a separator stands at the place. -/
theorem lt_of_readSpecAt {b : UInt8} {rest : List UInt8} {rule : Rule}
    (begins : bytesFrom text place = b :: rest) (between : onByte isBetweenSpecs b = false)
    (h : readSpecAt text place = .ok (rule, next)) : place < next := by
  rw [readSpecAt] at h
  split at h
  · cases h
  · next delimiter =>
    have plain : onByte endsName b = false := by
      rw [isAt, begins] at delimiter
      grind [onByte, endsName, isBetweenSpecs]
    split at h
    · cases h
    · next rawName afterName taken =>
      dsimp only at h
      split at h
      · cases h
      · split at h
        · cases h
        · next arguments afterArguments read =>
          obtain ⟨⟨message, next'⟩, found, eq⟩ := map_eq_ok h
          have same : next' = next := congrArg Prod.snd eq
          have h₁ := lt_of_take begins plain taken
          have h₂ := le_of_readArgumentsAt read
          have h₃ := le_of_readOptionalMessageAt found
          omega

/-- What is skipped is behind the reader. -/
theorem bytesFrom_skip (p : Char → Bool) (text : List Char) (place : Nat) :
    bytesFrom text (skip p text place) = (bytesFrom text place).dropWhile (onByte p) := by
  have cut : ((bytesFrom text place).takeWhile (onByte p) ++
      (bytesFrom text place).dropWhile (onByte p)).drop
        ((bytesFrom text place).takeWhile (onByte p)).length =
      (bytesFrom text place).dropWhile (onByte p) := List.drop_left
  rw [List.takeWhile_append_dropWhile] at cut
  rw [bytesFrom, skip, ← List.drop_drop]
  exact cut

/-- A byte that is not skipped is another one. -/
theorem onByte_of_bytesFrom_skip {p : Char → Bool} {b : UInt8} {rest : List UInt8}
    (begins : bytesFrom text (skip p text place) = b :: rest) : onByte p b = false := by
  rw [bytesFrom_skip] at begins
  have first := List.head?_dropWhile_not (onByte p) (bytesFrom text place)
  rwa [begins] at first

/-! ### Whole texts -/

/-- All specs from a place on as rules, excluded ones included. -/
def readSpecsAt (text : List Char) (place : Nat) : Except Fault (List Rule) :=
  match _begins : bytesFrom text (skip isBetweenSpecs text place) with
  | [] => .ok []
  | _ :: _ =>
    match _found : readSpecAt text (skip isBetweenSpecs text place) with
    | .error fault => .error fault
    | .ok (rule, next) => (readSpecsAt text next).map (rule :: ·)
termination_by (utf8Bytes text).length - place
decreasing_by
  have further := lt_of_readSpecAt _begins (onByte_of_bytesFrom_skip _begins) _found
  have skipped := le_skip isBetweenSpecs text place
  have inside : (bytesFrom text (skip isBetweenSpecs text place)).length ≠ 0 := by simp [_begins]
  rw [bytesFrom, List.length_drop] at inside
  omega

end RecordRules.RuleText

namespace RecordRules.Rule

/-- The rules of a text, read by its bytes. A text without any spec is a fault at its
start. -/
def parseBytes (kind : RuleKind) (text : String) : Except Fault (List Rule) :=
  match RuleText.readSpecsAt text.toList 0 with
  | .error fault => .error fault
  | .ok [] => .error (RuleText.misread text.toList 0 .noRule)
  | .ok specs => .ok ((specs.filter fun rule => !RuleText.isExcluded rule).map (forKind kind))

end RecordRules.Rule
