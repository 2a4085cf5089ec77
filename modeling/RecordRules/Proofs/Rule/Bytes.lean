/-
Rule texts are read by bytes as they are read by characters.

* `offset`: the place of a rest of a text; `bytesFrom_offset`, `part_offset`: what stands
  there, and what stands between two of them;
* `Detects`: a scan over bytes that finds what a test of characters finds;
  `hits_char`, `hits_escape`: what it does with the bytes of a character and of an escape;
* `skip_offset`, `take_offset`, `closingAt?_offset`, `partsBetween_offset`: the scanners at
  the place of a rest;
* `readSpecAt_offset`, `readSpecsAt_offset`: the readers;
* `parseBytes_eq`: no text is divided inside a character, and the result is that of
  `Rule.parse`.

All delimiters are ASCII characters, and no byte of another character is one.
-/
import RecordRules.Rule.ByteReader
import RecordRules.Proofs.Folds
import RecordRules.Proofs.Rule.Separation
import RecordRules.Proofs.Text.ByteOffsets
import RecordRules.Proofs.Text.Percent

namespace RecordRules.RuleText

open Text

variable {text s t : List Char} {c d : Char}

/-! ### Places -/

/-- The place of a rest of a text. -/
def offset (text s : List Char) : Nat := byteLength text - byteLength s

lemma utf8Bytes_append (s t : List Char) : utf8Bytes (s ++ t) = utf8Bytes s ++ utf8Bytes t :=
  List.flatMap_append

lemma length_utf8Bytes (s : List Char) : (utf8Bytes s).length = byteLength s := by
  induction s with
  | nil => rfl
  | cons c rest ih =>
    rw [utf8Bytes_cons, List.length_append, String.length_utf8EncodeChar, ih, byteLength_cons]

@[simp] lemma offset_self (text : List Char) : offset text text = 0 := Nat.sub_self _

lemma offset_nil (text : List Char) : offset text [] = (utf8Bytes text).length :=
  (length_utf8Bytes text).symm

/-- The place behind a part of a text. -/
lemma offset_append (within : s ++ t <:+ text) : offset text t = offset text (s ++ t) + byteLength s := by
  have fits := byteLength_le_of_suffix within
  rw [offset, offset]
  rw [byteLength_append] at fits ⊢
  omega

lemma offset_cons (within : c :: s <:+ text) : offset text s = offset text (c :: s) + c.utf8Size :=
  offset_append (s := [c]) within

lemma offset_cons_ascii (ascii : c.toNat < 128) (within : c :: s <:+ text) :
    offset text s = offset text (c :: s) + 1 := by
  rw [offset_cons within, utf8Size_of_ascii ascii]

/-- The bytes from the place of a rest on are its bytes. -/
lemma bytesFrom_offset (within : s <:+ text) : bytesFrom text (offset text s) = utf8Bytes s := by
  obtain ⟨front, rfl⟩ := within
  have place : offset (front ++ s) s = (utf8Bytes front).length := by
    rw [offset, byteLength_append, length_utf8Bytes, Nat.add_sub_cancel]
  rw [bytesFrom, utf8Bytes_append, place, List.drop_left]

/-- Between the places of two rests stands what the one has before the other. -/
lemma part_offset (within : s ++ t <:+ text) : part text (offset text (s ++ t)) (offset text t) = .ok s := by
  obtain ⟨front, rfl⟩ := within
  have start : offset (front ++ (s ++ t)) (s ++ t) = byteLength front := by
    rw [offset, byteLength_append, Nat.add_sub_cancel]
  have stop : offset (front ++ (s ++ t)) t = byteLength (front ++ s) := by
    rw [offset, ← List.append_assoc, byteLength_append (front ++ s), Nat.add_sub_cancel]
  rw [part, start, stop, ← List.append_assoc, splitAtByte?_append]
  dsimp only
  rw [splitAtByte?_append]

/-! ### The bytes of characters -/

/-- All characters in `p` are ASCII characters. -/
def IsAscii (p : Char → Bool) : Prop := ∀ c, p c = true → c.toNat < 128

namespace IsAscii

variable {p q : Char → Bool}

lemma beq (ascii : c.toNat < 128) : IsAscii (· == c) := by
  intro e same
  rwa [beq_iff_eq.mp same]

lemma or (hp : IsAscii p) (hq : IsAscii q) : IsAscii fun c => p c || q c := by
  intro e either
  rcases Bool.or_eq_true_iff.mp either with h | h
  · exact hp e h
  · exact hq e h

lemma not_of_high (hp : IsAscii p) (high : ¬ c.toNat < 128) : p c = false :=
  Bool.eq_false_iff.mpr fun h => high (hp c h)

end IsAscii

lemma isAscii_isEscapable : IsAscii isEscapable :=
  ((((((IsAscii.beq (by decide)).or (.beq (by decide))).or (.beq (by decide))).or (.beq (by decide))).or
    (.beq (by decide))).or (.beq (by decide))).or (.beq (by decide))

lemma isAscii_isAsciiBlank : IsAscii isAsciiBlank :=
  ((((IsAscii.beq (by decide)).or (.beq (by decide))).or (.beq (by decide))).or (.beq (by decide))).or
    (.beq (by decide))

lemma isAscii_isBetweenSpecs : IsAscii isBetweenSpecs :=
  (((IsAscii.beq (by decide)).or isAscii_isAsciiBlank).or (.beq (by decide))).or (.beq (by decide))

lemma isAscii_endsArguments : IsAscii endsArguments :=
  (IsAscii.beq (by decide)).or (.beq (by decide))

lemma isAscii_endsName : IsAscii endsName :=
  ((IsAscii.beq (by decide)).or (.beq (by decide))).or (.beq (by decide))

lemma onByte_of_high {b : UInt8} (high : 128 ≤ b.toNat) (p : Char → Bool) : onByte p b = false := by
  rw [onByte, decide_eq_false (by omega), Bool.false_and]

/-- The byte of an ASCII character is seen as that character. -/
lemma onByte_ofNat (ascii : c.toNat < 128) (p : Char → Bool) : onByte p (UInt8.ofNat c.toNat) = p c := by
  have byte : (UInt8.ofNat c.toNat).toNat < 128 := by
    rw [UInt8.toNat_ofNat']
    omega
  rw [onByte, Percent.asciiChar_ofNat ascii, decide_eq_true byte, Bool.true_and]

/-- No byte of another character is an ASCII character. -/
lemma high_of_mem_utf8EncodeChar (high : ¬ c.toNat < 128) {b : UInt8} (mem : b ∈ String.utf8EncodeChar c) :
    128 ≤ b.toNat := by
  have large : ¬ c.val.toNat ≤ 127 := fun small => high (Nat.lt_succ_of_le small)
  have byte : ∀ n, 128 ≤ n → n < 256 → 128 ≤ (UInt8.ofNat n).toNat := by
    intro n low top
    rw [UInt8.toNat_ofNat']
    omega
  rw [String.utf8EncodeChar] at mem
  simp only [large, ↓reduceIte] at mem
  split at mem
  · simp only [List.mem_cons, List.not_mem_nil, or_false] at mem
    rcases mem with rfl | rfl <;> exact byte _ (by omega) (by omega)
  · split at mem
    · simp only [List.mem_cons, List.not_mem_nil, or_false] at mem
      rcases mem with rfl | rfl | rfl <;> exact byte _ (by omega) (by omega)
    · simp only [List.mem_cons, List.not_mem_nil, or_false] at mem
      rcases mem with rfl | rfl | rfl | rfl <;> exact byte _ (by omega) (by omega)

/-- The first byte of a character that is no ASCII character. -/
lemma exists_utf8Bytes_cons_high (high : ¬ c.toNat < 128) (s : List Char) :
    ∃ b rest, utf8Bytes (c :: s) = b :: rest ∧ 128 ≤ b.toNat := by
  obtain ⟨b, more, bytes⟩ := List.exists_cons_of_ne_nil (String.utf8EncodeChar_ne_nil (c := c))
  have first := high_of_mem_utf8EncodeChar high (b := b) (by rw [bytes]; exact List.mem_cons_self)
  exact ⟨b, more ++ utf8Bytes s, by rw [utf8Bytes_cons, bytes]; rfl, first⟩

variable {p : Char → Bool}

lemma head_utf8Bytes (ascii : IsAscii p) (s : List Char) :
    (utf8Bytes s).head?.any (onByte p) = s.head?.any p := by
  cases s with
  | nil => rfl
  | cons c rest =>
    by_cases single : c.toNat < 128
    · rw [utf8Bytes_cons_ascii single]
      exact onByte_ofNat single p
    · obtain ⟨b, more, bytes, high⟩ := exists_utf8Bytes_cons_high single rest
      rw [bytes]
      exact (onByte_of_high high p).trans (ascii.not_of_high single).symm

lemma dropWhile_utf8Bytes (ascii : IsAscii p) (s : List Char) :
    (utf8Bytes s).dropWhile (onByte p) = utf8Bytes (s.dropWhile p) := by
  induction s with
  | nil => rfl
  | cons c rest ih =>
    by_cases single : c.toNat < 128
    · rw [utf8Bytes_cons_ascii single, List.dropWhile_cons, List.dropWhile_cons, onByte_ofNat single, ih,
        ← utf8Bytes_cons_ascii single]
      split <;> rfl
    · obtain ⟨b, more, bytes, high⟩ := exists_utf8Bytes_cons_high single rest
      rw [List.dropWhile_cons_of_neg (by simp [ascii.not_of_high single]), bytes,
        List.dropWhile_cons_of_neg (by simp [onByte_of_high high])]

lemma endsSpecAt_utf8Bytes (s : List Char) : endsSpecAt (utf8Bytes s) = atSpecEnd s := by
  rw [endsSpecAt, atSpecEnd, dropWhile_utf8Bytes isAscii_isAsciiBlank]
  have first := head_utf8Bytes (.beq (c := '|') (by decide)) (s.dropWhile isAsciiBlank)
  cases start : s.dropWhile isAsciiBlank with
  | nil => rfl
  | cons c rest =>
    rw [start] at first
    obtain ⟨b, more, bytes⟩ : ∃ b more, utf8Bytes (c :: rest) = b :: more :=
      List.exists_cons_of_ne_nil (by simp [utf8Bytes_cons, String.utf8EncodeChar_ne_nil])
    rw [bytes] at first ⊢
    exact first

/-! ### Scans -/

variable {found : UInt8 → List UInt8 → Bool} {test : Char → List Char → Bool}

/-- A scan finds the bytes of the ASCII characters that pass a test, and no byte of
another character. -/
structure Detects (found : UInt8 → List UInt8 → Bool) (test : Char → List Char → Bool) : Prop where
  ascii : ∀ (c : Char) (s : List Char), c.toNat < 128 →
    found (UInt8.ofNat c.toNat) (utf8Bytes s) = test c s
  high : ∀ (b : UInt8) (rest : List UInt8), 128 ≤ b.toNat → found b rest = false
  other : ∀ (c : Char) (s : List Char), ¬ c.toNat < 128 → test c s = false

/-- A byte that does not begin an escape. -/
lemma hits_cons {b : UInt8} {rest : List UInt8}
    (plain : ¬ (onByte (· == '\\') b = true ∧ rest.head?.any (onByte isEscapable) = true))
    (place : Nat) :
    hits found place (b :: rest) =
      if found b rest = true then place :: hits found (place + 1) rest
      else hits found (place + 1) rest := by
  cases rest with
  | nil => rw [hits, hits]
  | cons d more =>
    rw [List.head?_cons, Option.any_some] at plain
    rw [hits, if_neg plain]

/-- The bytes that are no ASCII characters are passed over. -/
lemma hits_high (detects : Detects found test) {bytes : List UInt8}
    (high : ∀ b ∈ bytes, 128 ≤ b.toNat) (place : Nat) (rest : List UInt8) :
    hits found place (bytes ++ rest) = hits found (place + bytes.length) rest := by
  induction bytes generalizing place with
  | nil => rfl
  | cons b more ih =>
    have first := high b List.mem_cons_self
    have plain : ¬ (onByte (· == '\\') b = true ∧ (more ++ rest).head?.any (onByte isEscapable) = true) := by
      simp [onByte_of_high first]
    rw [List.cons_append, hits_cons plain, detects.high b _ first, if_neg Bool.false_ne_true,
      ih (fun b mem => high b (List.mem_cons_of_mem _ mem)), List.length_cons]
    congr 1
    omega

/-- A character that does not begin an escape. -/
lemma hits_char (detects : Detects found test) (plain : ¬ BeginsEscape c s) (place : Nat) :
    hits found place (utf8Bytes (c :: s)) =
      if test c s = true then place :: hits found (place + c.utf8Size) (utf8Bytes s)
      else hits found (place + c.utf8Size) (utf8Bytes s) := by
  by_cases single : c.toNat < 128
  · rw [utf8Bytes_cons_ascii single, hits_cons, detects.ascii c s single, utf8Size_of_ascii single]
    rwa [onByte_ofNat single, head_utf8Bytes isAscii_isEscapable, beq_iff_eq, ← BeginsEscape]
  · rw [utf8Bytes_cons, hits_high detects (fun _ => high_of_mem_utf8EncodeChar single),
      String.length_utf8EncodeChar, detects.other c s single, if_neg Bool.false_ne_true]

/-- Both bytes of an escape are passed over. -/
lemma hits_escape (escapable : isEscapable d = true) (s : List Char) (place : Nat) :
    hits found place (utf8Bytes ('\\' :: d :: s)) =
      hits found (place + '\\'.utf8Size + d.utf8Size) (utf8Bytes s) := by
  have single := isAscii_isEscapable d escapable
  have backslash : '\\'.toNat < 128 := by decide
  have escape : onByte (· == '\\') (UInt8.ofNat '\\'.toNat) = true ∧
      onByte isEscapable (UInt8.ofNat d.toNat) = true :=
    ⟨onByte_ofNat backslash _, (onByte_ofNat single _).trans escapable⟩
  rw [utf8Bytes_cons_ascii backslash, utf8Bytes_cons_ascii single, hits, if_pos escape,
    utf8Size_of_ascii backslash, utf8Size_of_ascii single]

lemma detects_stop {stop : Char → Bool} (ascii : IsAscii stop) :
    Detects (fun b _ => onByte stop b) (fun c _ => stop c) where
  ascii _ _ single := onByte_ofNat single stop
  high _ _ high := onByte_of_high high stop
  other _ _ single := ascii.not_of_high single

lemma detects_closing {quote : Char} (ascii : quote.toNat < 128) :
    Detects (fun b rest => onByte (· == quote) b && endsSpecAt rest) (fun c s => c == quote && atSpecEnd s) where
  ascii c s single := by rw [onByte_ofNat single, endsSpecAt_utf8Bytes]
  high b rest high := by rw [onByte_of_high high, Bool.false_and]
  other c s single := by rw [(IsAscii.beq ascii).not_of_high single, Bool.false_and]

/-! ### Scanners -/

lemma suffix_of_pair (within : c :: d :: s <:+ text) : s <:+ text :=
  (List.suffix_cons d s).trans ((List.suffix_cons c (d :: s)).trans within)

lemma suffix_of_cons (within : c :: s <:+ text) : s <:+ text := (List.suffix_cons c s).trans within

lemma isAt_offset (ascii : IsAscii p) (within : s <:+ text) :
    isAt p text (offset text s) = s.head?.any p := by
  rw [isAt, bytesFrom_offset within, head_utf8Bytes ascii]

lemma skip_offset (ascii : IsAscii p) (within : s <:+ text) :
    skip p text (offset text s) = offset text (s.dropWhile p) := by
  have parts := congrArg List.length (List.takeWhile_append_dropWhile (p := onByte p) (l := utf8Bytes s))
  have fits := byteLength_le_of_suffix within
  rw [List.length_append, dropWhile_utf8Bytes ascii, length_utf8Bytes, length_utf8Bytes] at parts
  rw [skip, bytesFrom_offset within, offset, offset]
  omega

/-- The first hit is the delimiter at which the scan of characters stops. -/
lemma untilStop_offset {stop : Char → Bool} (ascii : IsAscii stop) (within : s <:+ text) :
    untilStop stop text (offset text s) = offset text (takeUntil stop s).2 := by
  rw [untilStop, bytesFrom_offset within]
  induction s using escapeInduction with
  | nil => exact (offset_nil text).symm
  | escape d s escapable ih =>
    rw [takeUntil_pair stop escapable, hits_escape escapable, ← offset_cons within,
      ← offset_cons (suffix_of_cons within)]
    exact ih (suffix_of_pair within)
  | char c s plain ih =>
    rw [takeUntil_char stop plain, hits_char (detects_stop ascii) plain, ← offset_cons within]
    split
    · rfl
    · exact ih (suffix_of_cons within)

lemma take_offset {stop : Char → Bool} (ascii : IsAscii stop) (within : s <:+ text) :
    take stop text (offset text s) = .ok ((takeUntil stop s).1, offset text (takeUntil stop s).2) := by
  have cut := part_offset ((takeUntil_append stop s).symm ▸ within)
  rw [takeUntil_append] at cut
  rw [take, untilStop_offset ascii within, cut]
  rfl

/-- The first hit is the closing quote of the scan of characters. -/
lemma closingAt?_offset {quote : Char} (ascii : quote.toNat < 128) (within : s <:+ text) :
    closingAt? quote text (offset text s) =
      (closingQuote? quote s).map fun (_, after) => offset text (quote :: after) := by
  rw [closingAt?, bytesFrom_offset within]
  induction s using escapeInduction with
  | nil => rfl
  | escape d s escapable ih =>
    rw [closingQuote?_pair escapable, hits_escape escapable, ← offset_cons within,
      ← offset_cons (suffix_of_cons within), ih (suffix_of_pair within), Option.map_map]
    rfl
  | char c s plain ih =>
    rw [closingQuote?_char plain, hits_char (detects_closing ascii) plain, ← offset_cons within]
    simp only [Bool.and_eq_true, beq_iff_eq]
    split
    · next ends =>
      rw [ends.1]
      rfl
    · rw [ih (suffix_of_cons within), Option.map_map]
      rfl

lemma modifyHead_nil_append (pieces : List (List Char)) : pieces.modifyHead ([] ++ ·) = pieces := by
  cases pieces <;> rfl

/-- The parts between the hits are those of the scan of characters; `between` is what was
passed over since the last comma. -/
lemma partsBetween_offset {raw : List Char} (between : List Char) (within : between ++ s <:+ raw) :
    partsBetween raw (offset raw (between ++ s))
        (hits (fun b _ => onByte (· == ',') b) (offset raw s) (utf8Bytes s)) =
      .ok ((splitCommas s).modifyHead (between ++ ·)) := by
  have comma_ascii : IsAscii (· == ',') := .beq (by decide)
  induction s using escapeInduction generalizing between with
  | nil =>
    change (part raw _ _).map _ = _
    rw [← offset_nil, part_offset within]
    simp [splitCommas, Except.map]
  | escape d s escapable ih =>
    have inner : '\\' :: d :: s <:+ raw := (List.suffix_append between _).trans within
    have passed : between ++ '\\' :: d :: s = (between ++ ['\\', d]) ++ s := by simp
    rw [splitCommas_pair escapable, hits_escape escapable, ← offset_cons inner,
      ← offset_cons (suffix_of_cons inner), passed, ih _ (passed ▸ within), List.modifyHead_modifyHead]
    simp [Function.comp_def]
  | char c s plain ih =>
    have inner : c :: s <:+ raw := (List.suffix_append between _).trans within
    rw [splitCommas_char plain, hits_char (detects_stop comma_ascii) plain, ← offset_cons inner]
    simp only [beq_iff_eq]
    split
    · next comma =>
      subst comma
      rw [partsBetween, part_offset within]
      dsimp only
      rw [← offset_cons_ascii (by decide) inner]
      have rest_read := ih [] (suffix_of_cons inner)
      rw [List.nil_append, modifyHead_nil_append] at rest_read
      rw [rest_read]
      simp [Except.map]
    · have passed : between ++ c :: s = (between ++ [c]) ++ s := by simp
      rw [passed, ih _ (passed ▸ within), List.modifyHead_modifyHead]
      simp [Function.comp_def]

lemma argumentsOfBytes_eq (raw : List Char) : argumentsOfBytes raw = .ok (argumentsOf raw) := by
  have parts := partsBetween_offset [] (List.suffix_refl raw)
  rw [List.nil_append, offset_self, modifyHead_nil_append] at parts
  rw [argumentsOfBytes, argumentsOf, parts]
  split <;> rfl

/-! ### Readers -/

/-- What is read, with places in the text for the rests of it. -/
def located {α : Type} (text : List Char) : Except Misread (α × List Char) → Except Fault (α × Nat)
  | .ok (result, after) => .ok (result, offset text after)
  | .error e => .error (misread text (offset text e.rest) e.fault)

lemma readArgumentsAt_offset (within : s <:+ text) :
    readArgumentsAt text (offset text s) =
      .ok ((readArguments s).1, offset text (readArguments s).2) := by
  rw [readArgumentsAt, isAt_offset (.beq (by decide)) within, readArguments]
  cases s with
  | nil => rfl
  | cons c rest =>
    rw [eat?, List.head?_cons, Option.any_some]
    simp only [beq_iff_eq]
    split
    · next colon =>
      subst colon
      rw [← offset_cons_ascii (by decide) within,
        take_offset isAscii_endsArguments (suffix_of_cons within)]
      dsimp only
      rw [argumentsOfBytes_eq]
      rfl
    · rfl

lemma readQuotedAt_offset {quote : Char} (ascii : quote.toNat < 128) (within : quote :: s <:+ text) :
    readQuotedAt quote text (offset text (quote :: s)) =
      located text (match closingQuote? quote s with
        | some (raw, after) => .ok (unescape raw, after.dropWhile isAsciiBlank)
        | none => .error ⟨.unterminatedMessage, quote :: s⟩) := by
  rw [readQuotedAt, ← offset_cons_ascii ascii within, closingAt?_offset ascii (suffix_of_cons within)]
  cases closing : closingQuote? quote s with
  | none => rfl
  | some parts =>
    obtain ⟨raw, after⟩ := parts
    have whole := closingQuote?_append closing
    have inner : raw ++ quote :: after <:+ text := whole ▸ suffix_of_cons within
    have behind : quote :: after <:+ text := (List.suffix_append raw _).trans inner
    simp only [Option.map_some]
    rw [whole, part_offset inner, ← offset_cons_ascii ascii behind,
      skip_offset isAscii_isAsciiBlank (suffix_of_cons behind)]
    rfl

lemma readMessageAt_offset (within : s <:+ text) :
    readMessageAt text (offset text s) = located text (readMessage s) := by
  have start_within : s.dropWhile isAsciiBlank <:+ text := (List.dropWhile_suffix _).trans within
  rw [readMessageAt, readMessage, skip_offset isAscii_isAsciiBlank within]
  dsimp only
  rw [isAt_offset (.beq (by decide)) start_within, isAt_offset (.beq (by decide)) start_within,
    take_offset (.beq (by decide)) start_within]
  cases start : s.dropWhile isAsciiBlank with
  | nil => rfl
  | cons c rest =>
    rw [start] at start_within
    simp only [List.head?_cons, Option.any_some, beq_iff_eq]
    by_cases single : c = '\''
    · subst single
      rw [if_pos rfl, if_pos (.inl rfl)]
      exact readQuotedAt_offset (by decide) start_within
    · by_cases double : c = '"'
      · subst double
        rw [if_neg single, if_pos rfl, if_pos (.inr rfl)]
        exact readQuotedAt_offset (by decide) start_within
      · rw [if_neg single, if_neg double, if_neg (not_or.mpr ⟨single, double⟩)]
        rfl

lemma readOptionalMessageAt_offset (within : s <:+ text) :
    readOptionalMessageAt text (offset text s) = located text (readOptionalMessage s) := by
  rw [readOptionalMessageAt, isAt_offset (.beq (by decide)) within, readOptionalMessage]
  cases s with
  | nil => rfl
  | cons c rest =>
    rw [eat?, List.head?_cons, Option.any_some]
    simp only [beq_iff_eq]
    split
    · next semicolon =>
      subst semicolon
      rw [← offset_cons_ascii (by decide) within, readMessageAt_offset (suffix_of_cons within)]
    · rfl

/-- A spec is read at its place as it is read by characters. -/
lemma readSpecAt_offset (within : s <:+ text) :
    readSpecAt text (offset text s) = located text (readSpec s) := by
  have name_within := (takeUntil_suffix endsName s).trans within
  have arguments_within := (readArguments_suffix _).trans name_within
  rw [readSpecAt, readSpec, isAt_offset ((IsAscii.beq (by decide)).or (.beq (by decide))) within,
    take_offset isAscii_endsName within]
  dsimp only
  rw [readArgumentsAt_offset name_within]
  dsimp only
  rw [readOptionalMessageAt_offset arguments_within]
  split
  · rfl
  · split
    · rfl
    · cases readOptionalMessage (readArguments (takeUntil endsName s).2).2 with
      | error e => rfl
      | ok parts => rfl

lemma readSpecsAt_of_end {place : Nat}
    (ends : bytesFrom text (skip isBetweenSpecs text place) = []) : readSpecsAt text place = .ok [] := by
  rw [readSpecsAt]
  split
  · rfl
  · next begins =>
    rw [ends] at begins
    cases begins

/-- The specs from the place of a rest on: the first one, then those behind it. -/
lemma readSpecsAt_of_start (within : s <:+ text) (start : s.dropWhile isBetweenSpecs = c :: t) :
    readSpecsAt text (offset text s) =
      (located text (readSpec (c :: t))).bind fun (rule, next) =>
        (readSpecsAt text next).map (rule :: ·) := by
  have start_within : c :: t <:+ text := start ▸ (List.dropWhile_suffix _).trans within
  have place : skip isBetweenSpecs text (offset text s) = offset text (c :: t) := by
    rw [skip_offset isAscii_isBetweenSpecs within, start]
  rw [readSpecsAt]
  split
  · next ends =>
    rw [place, bytesFrom_offset start_within, utf8Bytes_cons, List.append_eq_nil_iff] at ends
    exact absurd ends.1 String.utf8EncodeChar_ne_nil
  · split <;>
    · next found =>
      rw [place, readSpecAt_offset start_within] at found
      rw [found]
      rfl

lemma readSpecsAt_offset (within : s <:+ text) :
    readSpecsAt text (offset text s) =
      (readSpecs s).mapError fun e => misread text (offset text e.rest) e.fault := by
  -- the induction is on the specs of the rest; each leaves a rest of it
  fun_induction readSpecs s with
  | case1 s none =>
    rw [readSpecsAt_of_end]
    · rfl
    · rw [skip_offset isAscii_isBetweenSpecs within, none, bytesFrom_offset List.nil_suffix]
      rfl
  | case2 s c rest start e found =>
    rw [readSpecsAt_of_start within start, found]
    rfl
  | case3 s c rest start rule after found e later ih =>
    have after_within := (readSpec_suffix found).trans (start ▸ (List.dropWhile_suffix _).trans within)
    rw [readSpecsAt_of_start within start, found]
    change (readSpecsAt text (offset text after)).map _ = _
    rw [ih after_within, later]
    rfl
  | case4 s c rest start rule after found rules later ih =>
    have after_within := (readSpec_suffix found).trans (start ▸ (List.dropWhile_suffix _).trans within)
    rw [readSpecsAt_of_start within start, found]
    change (readSpecsAt text (offset text after)).map _ = _
    rw [ih after_within, later]
    rfl

end RecordRules.RuleText

namespace RecordRules.Rule

open RuleText

/-- Reading a text by its bytes comes to the result of reading it by its characters: no
part of it that is cut out begins or ends inside a character. -/
lemma parseBytes_eq (kind : RuleKind) (text : String) :
    parseBytes kind text = (parse kind text).mapError .grammar := by
  have read := readSpecsAt_offset (List.suffix_refl text.toList)
  rw [offset_self] at read
  rw [parseBytes, parse, read]
  cases readSpecs text.toList with
  | error e =>
    change Except.error (misread _ _ _) = _
    rw [misread, String.ofList_toList]
    rfl
  | ok specs =>
    cases specs with
    | nil =>
      change Except.error (misread _ _ _) = _
      rw [misread, String.ofList_toList]
      rfl
    | cons rule rest => rfl

end RecordRules.Rule
