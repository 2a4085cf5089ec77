/-
Encoders of markup lose nothing and leave no markup.

An encoder writes some characters as entities, which begin with an ampersand and end with
a semicolon, and leaves the others alone.

* `EntityCode`: such an encoder, with the characters that it writes as entities;
* `EntityCode.decode`: its decoder, which reads a text from left to right and takes off an
  entity wherever one begins;
* `EntityCode.decode_encode`: it recovers every text from what the encoder makes of it;
* `EntityCode.Encoded`: texts without markup in which every ampersand begins an entity;
  `EntityCode.encoded_encode` says that the encoder makes such texts;
* `numericCode`, `namedCode`: the two encoders that write entities by number and by name;
* `encoders_lose_nothing`: this for the sanitizer and for the text function.
-/
import Mathlib.Data.List.Nodup
import RecordRules.Proofs.Decimal.Digits
import RecordRules.Proofs.Text.Words
import RecordRules.Sanitizer.Basic
import RecordRules.Sanitizer.TextFunction

namespace RecordRules.Markup

/-- An encoder that writes each character of a list as an entity of its own. Between the
ampersand and the semicolon an entity has a name, in which there is no other semicolon and
no character that is itself written as an entity. -/
structure EntityCode where
  write : Char → List Char
  /-- The characters that are written as entities. -/
  chars : List Char
  write_of_not_mem : ∀ c, c ∉ chars → write c = [c]
  write_of_mem : ∀ c ∈ chars, ∃ name, write c = '&' :: (name ++ [';']) ∧ ∀ d ∈ name, d ≠ ';' ∧ d ∉ chars
  write_inj : ∀ c ∈ chars, ∀ d ∈ chars, write c = write d → c = d
  amp_mem : '&' ∈ chars
  semicolon_not_mem : ';' ∉ chars

namespace EntityCode

variable (code : EntityCode) {a b s t after : List Char} {c d : Char}

/-- The encoded form of a text. -/
def encode (s : List Char) : List Char := s.flatMap code.write

/-- The character of the entity at the start of a text, and what follows it. -/
def entity? (s : List Char) : Option (Char × List Char) :=
  (code.chars.find? fun c => (code.write c).isPrefixOf s).map fun c => (c, s.drop (code.write c).length)

variable {code}

lemma entity?_eq_some (found : code.entity? s = some (c, after)) :
    c ∈ code.chars ∧ s = code.write c ++ after := by
  rw [entity?, Option.map_eq_some_iff] at found
  obtain ⟨d, first, same⟩ := found
  cases same
  have starts := List.find?_some first
  obtain ⟨more, text⟩ := List.isPrefixOf_iff_prefix.mp starts
  refine ⟨List.mem_of_find?_eq_some first, ?_⟩
  rw [← text, List.drop_left]

lemma entity?_length (found : code.entity? s = some (c, after)) : after.length < s.length := by
  obtain ⟨mem, rfl⟩ := entity?_eq_some found
  obtain ⟨name, written, -⟩ := code.write_of_mem c mem
  rw [written]
  simp only [List.cons_append, List.length_cons, List.length_append]
  omega

variable (code)

/-- The text that is recovered: from left to right, each entity becomes its character, and
a character at which no entity begins stays. -/
def decode : List Char → List Char
  | [] => []
  | c :: rest =>
    match _found : code.entity? (c :: rest) with
    | some (d, after) => d :: decode after
    | none => c :: decode rest
termination_by s => s.length
decreasing_by
  · exact entity?_length _found
  · exact Nat.lt_succ_self _

/-- Neither an angle nor a quote is in a text, and every ampersand in it begins an
entity. -/
structure Encoded (t : List Char) : Prop where
  no_markup : ∀ c ∈ t, c ≠ '<' ∧ c ≠ '>' ∧ c ≠ '"' ∧ c ≠ '\''
  entity : ∀ a b, t = a ++ '&' :: b → ∃ c ∈ code.chars, code.write c <+: '&' :: b

variable {code}

/-! ### Decoding -/

/-- No entity is the beginning of another one, whatever follows that. -/
lemma entity_unique (mem : c ∈ code.chars) (mem' : d ∈ code.chars)
    (starts : code.write d <+: code.write c ++ t) : d = c := by
  obtain ⟨name, written, inside⟩ := code.write_of_mem c mem
  obtain ⟨name', written', inside'⟩ := code.write_of_mem d mem'
  obtain ⟨more, text⟩ := starts
  rw [written, written', List.cons_append, List.cons_append, List.append_assoc, List.append_assoc] at text
  have names := Text.divisions_unique (List.cons.inj text).2 (fun inside_name => (inside' _ inside_name).1 rfl)
    (fun inside_name => (inside _ inside_name).1 rfl)
  refine code.write_inj d mem' c mem ?_
  rw [written, written', names.1]

lemma entity?_write_append (mem : c ∈ code.chars) (t : List Char) :
    code.entity? (code.write c ++ t) = some (c, t) := by
  have found : (code.chars.find? fun d => (code.write d).isPrefixOf (code.write c ++ t)) = some c := by
    cases first : code.chars.find? fun d => (code.write d).isPrefixOf (code.write c ++ t) with
    | none =>
      have none_starts := List.find?_eq_none.mp first c mem
      rw [List.isPrefixOf_iff_prefix] at none_starts
      exact absurd (List.prefix_append _ _) none_starts
    | some d =>
      have starts := List.find?_some first
      rw [entity_unique mem (List.mem_of_find?_eq_some first) (List.isPrefixOf_iff_prefix.mp starts)]
  rw [entity?, found, Option.map_some, List.drop_left]

lemma entity?_of_ne (other : c ≠ '&') (t : List Char) : code.entity? (c :: t) = none := by
  rw [← Option.not_isSome_iff_eq_none, Option.isSome_iff_exists]
  rintro ⟨⟨d, after⟩, found⟩
  obtain ⟨mem, text⟩ := entity?_eq_some found
  obtain ⟨name, written, -⟩ := code.write_of_mem d mem
  rw [written] at text
  exact other (List.cons.inj text).1

lemma decode_of_entity (found : code.entity? s = some (d, after)) : code.decode s = d :: code.decode after := by
  cases s with
  | nil =>
    obtain ⟨mem, text⟩ := entity?_eq_some found
    obtain ⟨name, written, -⟩ := code.write_of_mem d mem
    rw [written] at text
    cases text
  | cons c rest =>
    rw [decode]
    split
    · next found' =>
      rw [found] at found'
      cases found'
      rfl
    · next none =>
      rw [found] at none
      cases none

lemma decode_of_ne (other : c ≠ '&') (t : List Char) : code.decode (c :: t) = c :: code.decode t := by
  rw [decode]
  split
  · next found =>
    rw [entity?_of_ne other] at found
    cases found
  · rfl

lemma ne_amp_of_not_mem (outside : c ∉ code.chars) : c ≠ '&' := by
  rintro rfl
  exact outside code.amp_mem

lemma encode_cons (c : Char) (s : List Char) : code.encode (c :: s) = code.write c ++ code.encode s :=
  List.flatMap_cons

/-- **What was encoded is recovered.** -/
theorem decode_encode (s : List Char) : code.decode (code.encode s) = s := by
  induction s with
  | nil => rw [encode, List.flatMap_nil, decode]
  | cons c rest ih =>
    rw [encode_cons]
    by_cases mem : c ∈ code.chars
    · rw [decode_of_entity (entity?_write_append mem _), ih]
    · rw [code.write_of_not_mem c mem, List.singleton_append, decode_of_ne (ne_amp_of_not_mem mem), ih]

/-! ### Encoded texts -/

/-- An ampersand is the only character that is both in an encoded text and written as an
entity. -/
lemma eq_amp_of_mem_encode (mem : d ∈ code.encode s) (inside : d ∈ code.chars) : d = '&' := by
  obtain ⟨c, -, there⟩ := List.mem_flatMap.mp mem
  by_cases c_mem : c ∈ code.chars
  · obtain ⟨name, written, plain⟩ := code.write_of_mem c c_mem
    rw [written, List.mem_cons, List.mem_append, List.mem_singleton] at there
    rcases there with amp | in_name | rfl
    · exact amp
    · exact absurd inside (plain d in_name).2
    · exact absurd inside code.semicolon_not_mem
  · rw [code.write_of_not_mem c c_mem, List.mem_singleton] at there
    exact absurd (there ▸ inside) c_mem

/-- An ampersand in what a character is written as is the first character of an entity. -/
lemma mem_of_write_eq (text : code.write c = a ++ '&' :: b) : c ∈ code.chars ∧ a = [] := by
  by_cases mem : c ∈ code.chars
  · refine ⟨mem, ?_⟩
    obtain ⟨name, written, plain⟩ := code.write_of_mem c mem
    cases a with
    | nil => rfl
    | cons d a =>
      rw [written] at text
      have inside : '&' ∈ name ++ [';'] := by
        rw [(List.cons.inj text).2]
        exact List.mem_append_right a List.mem_cons_self
      rcases List.mem_append.mp inside with in_name | last
      · exact absurd code.amp_mem (plain _ in_name).2
      · exact absurd (List.mem_singleton.mp last) (by decide)
  · rw [code.write_of_not_mem c mem] at text
    have amp : '&' ∈ [c] := by
      rw [text]
      exact List.mem_append_right a List.mem_cons_self
    exact absurd (List.mem_singleton.mp amp).symm (ne_amp_of_not_mem mem)

/-- Every ampersand of an encoded text begins an entity. -/
lemma exists_entity_of_encode (text : code.encode s = a ++ '&' :: b) :
    ∃ c ∈ code.chars, code.write c <+: '&' :: b := by
  induction s generalizing a with
  | nil =>
    rw [encode, List.flatMap_nil] at text
    cases a <;> cases text
  | cons c rest ih =>
    rw [encode_cons] at text
    -- the ampersand is in what the first character is written as, or behind it
    rcases List.append_eq_append_iff.mp text with ⟨m, -, later⟩ | ⟨m, written, here⟩
    · exact ih later
    · cases m with
      | nil => exact ih (a := []) here.symm
      | cons e m =>
        obtain ⟨rfl, behind⟩ := List.cons.inj here
        obtain ⟨mem, rfl⟩ := mem_of_write_eq written
        refine ⟨c, mem, code.encode rest, ?_⟩
        rw [written, behind]
        rfl

lemma encoded_encode (markup : ∀ c ∈ ['<', '>', '"', '\''], c ∈ code.chars) (s : List Char) :
    code.Encoded (code.encode s) where
  no_markup d mem := by
    have left : ∀ c ∈ ['<', '>', '"', '\''], d ≠ c := by
      rintro c listed rfl
      rw [eq_amp_of_mem_encode mem (markup d listed)] at listed
      revert listed
      decide
    simpa using left
  entity _ _ := exists_entity_of_encode

end EntityCode

/-! ### The two encoders -/

/-- The characters that have an entity by their number: those of markup, and control
characters. -/
def numericChars : List Char := ['"', '\'', '<', '>', '&'] ++ (List.range 32).map Char.ofNat

lemma mem_numericChars_iff {c : Char} :
    c ∈ numericChars ↔ c = '"' ∨ c = '\'' ∨ c = '<' ∨ c = '>' ∨ c = '&' ∨ c.toNat < 32 := by
  have control : c ∈ (List.range 32).map Char.ofNat ↔ c.toNat < 32 := by
    constructor
    · intro mem
      obtain ⟨n, small, rfl⟩ := List.mem_map.mp mem
      have all : ∀ n ∈ List.range 32, (Char.ofNat n).toNat < 32 := by decide
      exact all n small
    · intro small
      exact List.mem_map.mpr ⟨c.toNat, List.mem_range.mpr small, Char.ofNat_toNat c⟩
  rw [numericChars, List.mem_append, control]
  simp only [List.mem_cons, List.not_mem_nil, or_false, or_assoc]

lemma numericEntity_of_mem {c : Char} (mem : c ∈ numericChars) :
    Sanitizer.numericEntity c = '&' :: (('#' :: digitsOf c.toNat) ++ [';']) :=
  if_pos (mem_numericChars_iff.mp mem)

lemma not_mem_numericChars_of_isDigit {c : Char} (digit : c.isDigit = true) : c ∉ numericChars := by
  have all : ∀ c ∈ numericChars, c.isDigit = false := List.forall_iff_forall_mem.mp (by decide)
  intro mem
  rw [all c mem] at digit
  cases digit

/-- Entities by number: `&#60;`. -/
def numericCode : EntityCode where
  write := Sanitizer.numericEntity
  chars := numericChars
  write_of_not_mem c outside := if_neg (mt mem_numericChars_iff.mpr outside)
  write_of_mem c mem := by
    refine ⟨'#' :: digitsOf c.toNat, numericEntity_of_mem mem, List.forall_mem_cons.mpr ⟨by decide, ?_⟩⟩
    intro d there
    have digit := isDigit_of_mem_digitsOf d there
    refine ⟨?_, not_mem_numericChars_of_isDigit digit⟩
    rintro rfl
    cases digit
  write_inj c mem d mem' same := by
    rw [numericEntity_of_mem mem, numericEntity_of_mem mem'] at same
    have digits : digitsOf c.toNat = digitsOf d.toNat := by simpa using same
    rw [← Char.toNat_inj, ← numberOf_digitsOf c.toNat, digits, numberOf_digitsOf]
  amp_mem := by decide
  semicolon_not_mem := by decide

/-- Entities by name: `&lt;`. -/
def namedCode : EntityCode where
  write := TextFunction.entity
  chars := ['&', '"', '\'', '<', '>']
  write_of_not_mem c outside := by
    obtain ⟨amp, quote, apostrophe, opening, closing⟩ :
        c ≠ '&' ∧ c ≠ '"' ∧ c ≠ '\'' ∧ c ≠ '<' ∧ c ≠ '>' := by simpa using outside
    rw [TextFunction.entity, if_neg amp, if_neg quote, if_neg apostrophe, if_neg opening, if_neg closing]
  write_of_mem c mem := by
    simp only [List.mem_cons, List.not_mem_nil, or_false] at mem
    rcases mem with rfl | rfl | rfl | rfl | rfl
    · exact ⟨"amp".toList, rfl, List.forall_iff_forall_mem.mp (by decide)⟩
    · exact ⟨"quot".toList, rfl, List.forall_iff_forall_mem.mp (by decide)⟩
    · exact ⟨"#039".toList, rfl, List.forall_iff_forall_mem.mp (by decide)⟩
    · exact ⟨"lt".toList, rfl, List.forall_iff_forall_mem.mp (by decide)⟩
    · exact ⟨"gt".toList, rfl, List.forall_iff_forall_mem.mp (by decide)⟩
  write_inj _ mem _ mem' := List.inj_on_of_nodup_map (by decide) mem mem'
  amp_mem := by decide
  semicolon_not_mem := by decide

/-- **Encoding markup loses nothing and leaves no markup.** For the sanitizer, which
writes entities by number, and for the text function, which writes them by name, the
decoder of these entities recovers every text from its encoded form. In that form there is
neither an angle nor a quote, every ampersand begins one of the entities, and the sanitizer
leaves no control character below the space either. -/
theorem encoders_lose_nothing (text : String) (arguments : List String) :
    (∃ t : List Char,
        Sanitizer.encodeMarkup.apply (.string text) arguments = .ok (.string (String.ofList t)) ∧
          numericCode.decode t = text.toList ∧ numericCode.Encoded t ∧ ∀ c ∈ t, 32 ≤ c.toNat) ∧
      ∃ t : List Char,
        TextFunction.encodeMarkup.apply text.toList = t ∧
          namedCode.decode t = text.toList ∧ namedCode.Encoded t := by
  constructor
  · refine ⟨numericCode.encode text.toList, rfl, EntityCode.decode_encode _,
      EntityCode.encoded_encode (List.forall_iff_forall_mem.mp (by decide)) _, ?_⟩
    intro c mem
    by_contra small
    have listed : c ∈ numericChars := mem_numericChars_iff.mpr (by omega)
    rw [EntityCode.eq_amp_of_mem_encode mem listed] at small
    exact small (by decide)
  · exact ⟨namedCode.encode text.toList, rfl, EntityCode.decode_encode _,
      EntityCode.encoded_encode (List.forall_iff_forall_mem.mp (by decide)) _⟩

end RecordRules.Markup
