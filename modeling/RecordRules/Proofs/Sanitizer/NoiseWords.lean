/-
Where the removal of noise words takes out noise words.

A word is looked for in the lower case of a text, and its place is taken by its byte
offset in the text itself. That the two have as many bytes does not make this the
same place: some characters grow in lower case and some shrink.

* `place?`: the byte offset of a word between spaces, where one is taken;
* `Removes`, `RemovesAll`: removals that take out, at each of these places, the word in
  some letter case with the spaces around it; `removeWord_of_removes` and
  `strip_of_removesAll` say that these are then the removals that are done;
* `Misplaced`: a word that is in a text, but not where its byte offset in the lower
  case is. A removal neither brings such a word into a text nor takes one out
  (`Removes.misplaced_iff`);
* `noiseWords_removes_iff`: all removals take out noise words iff none is misplaced.
-/
import RecordRules.Proofs.Text.ByteOffsets
import RecordRules.Proofs.Text.Words
import RecordRules.Sanitizer.Basic

namespace RecordRules.NoiseWord

open Text

/-! ### Places -/

/-- A word with a space on both sides. -/
def spaced (word : List Char) : List Char := ' ' :: (word ++ [' '])

/-- The byte offset of the first such word in the lower case of a text, if the text has
as many bytes. -/
def place? (word s : List Char) : Option Nat :=
  if byteLength (lower s) = byteLength s then
    (splitOnFirst? (spaced word) (lower s)).map fun (front, _) => byteLength front
  else none

/-- The text in its padded form, in which every word has a space on both sides. -/
def padded (s : List Char) : List Char := ' ' :: (collapseBlanks s ++ [' '])

/-- The removal of one word after another. -/
def removeWords (words : List String) (s : List Char) : Except Fault (List Char) :=
  words.foldlM (fun text word => removeWord (spaced word.toList) text) s

variable {word w a b s t v : List Char}

lemma spaced_append (word b : List Char) : spaced word ++ b = ' ' :: (word ++ ' ' :: b) := by
  simp [spaced]

lemma byteLength_spaced (word : List Char) : byteLength (spaced word) = byteLength word + 2 := by
  have space : byteLength [' '] = 1 := rfl
  rw [spaced, byteLength_cons, byteLength_append, space]
  have first : (' ' : Char).utf8Size = 1 := rfl
  omega

/-- No place is taken where none of the words is or the bytes are not as many. -/
lemma removeWord_of_no_place (none : place? word s = none) : removeWord (spaced word) s = .ok s := by
  rw [removeWord]
  split
  · rfl
  · next front after found =>
    rw [place?, found, Option.map_some] at none
    rw [if_neg]
    rintro ⟨bytes, -⟩
    rw [if_pos bytes] at none
    cases none

/-- At a place that is taken a space is put, and the removal goes on; or the place is
inside a character. -/
lemma removeWord_of_place {n : Nat} (found : place? word s = some n) :
    removeWord (spaced word) s =
      match replaceBytes? n (byteLength (spaced word)) s with
      | some t => removeWord (spaced word) t
      | none => .error .insideCharacter := by
  rw [place?] at found
  split_ifs at found with bytes
  obtain ⟨⟨front, after⟩, first, rfl⟩ := Option.map_eq_some_iff.mp found
  have wide : 1 < byteLength (spaced word) := by
    rw [byteLength_spaced]
    omega
  rw [removeWord, first]
  dsimp only
  rw [if_pos ⟨bytes, wide⟩]
  split
  · next put => rw [put]
  · next inside => rw [inside]

/-- What is put a space for is the word with its spaces, where the bytes are those of the
word. -/
lemma replaceBytes?_spaced (a b : List Char) (width : byteLength w = byteLength word) :
    replaceBytes? (byteLength a) (byteLength (spaced word)) (a ++ ' ' :: (w ++ ' ' :: b)) =
      some (a ++ ' ' :: b) := by
  have same : byteLength (spaced word) = byteLength (spaced w) := by
    rw [byteLength_spaced, byteLength_spaced, width]
  rw [replaceBytes?, splitAtByte?_append, same, ← spaced_append]
  dsimp only [Option.bind_eq_bind, Option.bind_some]
  rw [splitAtByte?_append]
  rfl

/-! ### Removals -/

/-- The removals of a word from a text: each of them takes out, at the place that was
found in the lower case, the word in some letter case with its two spaces. They come to
an end where no place is found. -/
inductive Removes (word : List Char) : List Char → List Char → Prop where
  | done {s : List Char} (none : place? word s = none) : Removes word s s
  | splice {a w b t : List Char} (cased : lower w = word)
      (found : place? word (a ++ ' ' :: (w ++ ' ' :: b)) = some (byteLength a))
      (width : byteLength w = byteLength word) (more : Removes word (a ++ ' ' :: b) t) :
      Removes word (a ++ ' ' :: (w ++ ' ' :: b)) t

/-- The removals of one word after another. -/
inductive RemovesAll : List String → List Char → List Char → Prop where
  | nil {s : List Char} : RemovesAll [] s s
  | cons {word : String} {words : List String} {s t u : List Char}
      (first : Removes word.toList s t) (more : RemovesAll words t u) :
      RemovesAll (word :: words) s u

/-- These removals are the ones that are done. -/
lemma removeWord_of_removes (removes : Removes word s t) :
    removeWord (spaced word) s = .ok t := by
  induction removes with
  | done none => exact removeWord_of_no_place none
  | @splice a w b t cased found width more ih =>
    rw [removeWord_of_place found, replaceBytes?_spaced a b width]
    exact ih

lemma removeWords_cons (word : String) (words : List String) (s : List Char) :
    removeWords (word :: words) s = removeWord (spaced word.toList) s >>= removeWords words := by
  rw [removeWords, List.foldlM_cons]
  rfl

lemma removeWords_of_removesAll {words : List String} (removes : RemovesAll words s t) :
    removeWords words s = .ok t := by
  induction removes with
  | nil => rfl
  | cons first more ih =>
    rw [removeWords_cons, removeWord_of_removes first]
    exact ih

/-- Noise words are removed from the padded text. -/
lemma strip_eq (s : List Char) : strip s = (removeWords words (padded s)).map trim := by
  rw [strip]
  change (removeWords words (padded s) >>= _) = _
  cases removeWords words (padded s) <;> rfl

lemma strip_of_removesAll (removes : RemovesAll words (padded s) t) : strip s = .ok (trim t) := by
  rw [strip_eq, removeWords_of_removesAll removes]
  rfl

/-! ### Words that are not in their place -/

/-- A word that is in a text, in some letter case and between spaces, but not with as
many bytes before it, or in it, as in the lower case. -/
def Misplaced (word s : List Char) : Prop :=
  ∃ a w b, s = a ++ ' ' :: (w ++ ' ' :: b) ∧ lower w = word ∧ ¬(growth a = 0 ∧ growth w = 0)

lemma not_misplaced_iff : ¬Misplaced word s ↔ ∀ a w b, s = a ++ ' ' :: (w ++ ' ' :: b) →
    lower w = word → byteLength (lower a) = byteLength a ∧ byteLength (lower w) = byteLength w := by
  constructor
  · intro placed a w b text cased
    by_contra bad
    rw [← growth_eq_zero_iff, ← growth_eq_zero_iff] at bad
    exact placed ⟨a, w, b, text, cased, bad⟩
  · rintro kept ⟨a, w, b, text, cased, bad⟩
    rw [growth_eq_zero_iff, growth_eq_zero_iff] at bad
    exact bad (kept a w b text cased)

lemma space_not_mem (outside : ' ' ∉ word) (cased : lower w = word) : ' ' ∉ w := by
  rwa [← space_mem_lower_iff, cased]

lemma growth_of_width (cased : lower w = word) (width : byteLength w = byteLength word) :
    growth w = 0 := by
  rw [growth_eq_zero_iff, cased, width]

/-- A word between spaces does not add to the bytes of a text. -/
lemma growth_cut (grown : growth w = 0) (a b : List Char) :
    growth (a ++ ' ' :: (w ++ ' ' :: b)) = growth (a ++ ' ' :: b) := by
  rw [growth_append_space, growth_append_space, growth_append_space, grown]
  omega

/-- At a place that is found there is the word in some letter case, in the text whose
lower case has so many bytes before it. -/
lemma exists_of_place {n : Nat} (found : place? word s = some n) :
    growth s = 0 ∧ ∃ a w b, s = a ++ ' ' :: (w ++ ' ' :: b) ∧ lower w = word ∧
      byteLength (lower a) = n := by
  rw [place?] at found
  split_ifs at found with bytes
  refine ⟨growth_eq_zero_iff.mpr bytes, ?_⟩
  obtain ⟨⟨front, after⟩, first, rfl⟩ := Option.map_eq_some_iff.mp found
  have text := eq_of_splitOnFirst? first
  rw [spaced_append] at text
  obtain ⟨a, rest, rfl, rfl, behind⟩ := exists_of_lower_eq_append_space text
  obtain ⟨w, b, rfl, cased, -⟩ := exists_of_lower_eq_append_space behind
  exact ⟨a, w, b, rfl, cased, rfl⟩

/-- A place is found for every word of a text with as many bytes. -/
lemma place_ne_none (grown : growth s = 0) (text : s = a ++ ' ' :: (w ++ ' ' :: b))
    (cased : lower w = word) : place? word s ≠ none := by
  rw [place?, if_pos (growth_eq_zero_iff.mp grown), Ne, Option.map_eq_none_iff, text,
    lower_append_space, lower_append_space, cased, ← spaced_append]
  exact splitOnFirst?_append_ne_none _ _ _

section

variable {x y : List Char}

/-- The words of a text around a word that is taken out are in what is left. -/
lemma exists_in_joined (same : a ++ ' ' :: (w ++ ' ' :: b) = x ++ ' ' :: (v ++ ' ' :: y))
    (outside : ' ' ∉ w) (outside' : ' ' ∉ v) (grown : growth w = 0) :
    (x = a ∧ v = w) ∨
      ∃ x' y', a ++ ' ' :: b = x' ++ ' ' :: (v ++ ' ' :: y') ∧ growth x' = growth x := by
  -- the other word is the same one, or behind it, or before it, next to it or not
  rcases divisions_at same with ⟨rfl, here⟩ | ⟨m, rfl, behind⟩ | ⟨m, rfl, before⟩
  · exact .inl ⟨rfl, (divisions_unique here outside outside').1.symm⟩
  · right
    rcases divisions_of_not_mem behind outside with ⟨rfl, rfl⟩ | ⟨m', rfl, rfl⟩
    · exact ⟨a, y, rfl, by rw [growth_append_space, grown, Int.add_zero]⟩
    · exact ⟨a ++ ' ' :: m', y, by simp, (growth_cut grown a m').symm⟩
  · right
    rcases divisions_of_not_mem before outside' with ⟨rfl, rfl⟩ | ⟨m', rfl, rfl⟩
    · exact ⟨x, b, by simp, rfl⟩
    · exact ⟨x, m' ++ ' ' :: b, by simp, rfl⟩

/-- The words of what is left were in the text. -/
lemma exists_in_cut (same : a ++ ' ' :: b = x ++ ' ' :: (v ++ ' ' :: y)) (outside : ' ' ∉ v)
    (grown : growth w = 0) :
    ∃ x' y', a ++ ' ' :: (w ++ ' ' :: b) = x' ++ ' ' :: (v ++ ' ' :: y') ∧ growth x' = growth x := by
  rcases divisions_at same with ⟨rfl, rfl⟩ | ⟨m, rfl, rfl⟩ | ⟨m, rfl, before⟩
  · exact ⟨a ++ ' ' :: w, y, by simp, by rw [growth_append_space, grown, Int.add_zero]⟩
  · exact ⟨a ++ ' ' :: (w ++ ' ' :: m), y, by simp, growth_cut grown a m⟩
  · rcases divisions_of_not_mem before outside with ⟨rfl, rfl⟩ | ⟨m', rfl, rfl⟩
    · exact ⟨x, w ++ ' ' :: y, by simp, rfl⟩
    · exact ⟨x, m' ++ ' ' :: (w ++ ' ' :: b), by simp, rfl⟩

end

lemma misplaced_of_joined (outside : ' ' ∉ v) (grown : growth w = 0)
    (misplaced : Misplaced v (a ++ ' ' :: b)) : Misplaced v (a ++ ' ' :: (w ++ ' ' :: b)) := by
  obtain ⟨x, v', y, same, cased, bad⟩ := misplaced
  obtain ⟨x', y', same', kept⟩ := exists_in_cut same (space_not_mem outside cased) grown
  exact ⟨x', v', y', same', cased, by rwa [kept]⟩

/-- The removals add nothing to the bytes of a text. -/
lemma Removes.growth_eq (removes : Removes word s t) : growth t = growth s := by
  induction removes with
  | done => rfl
  | splice cased _ width _ ih => rw [ih, growth_cut (growth_of_width cased width)]

/-- At the end of the removals no place is found. -/
lemma Removes.place_eq_none (removes : Removes word s t) : place? word t = none := by
  induction removes with
  | done none => exact none
  | splice _ _ _ _ ih => exact ih

/-- The removals bring no misplaced word into a text and take none out of it. If the
word that is taken out was itself misplaced, the one that was found is another one, and
that one is misplaced and left in the text. -/
lemma Removes.misplaced_iff (removes : Removes word s t) (outside : ' ' ∉ word)
    (outside' : ' ' ∉ v) : Misplaced v t ↔ Misplaced v s := by
  induction removes with
  | done => rfl
  | @splice a w b t cased found width more ih =>
    have grown := growth_of_width cased width
    have w_outside := space_not_mem outside cased
    rw [ih]
    refine ⟨misplaced_of_joined outside' grown, ?_⟩
    rintro ⟨x, v', y, same, cased', bad⟩
    rcases exists_in_joined same w_outside (space_not_mem outside' cased') grown with
      ⟨rfl, rfl⟩ | ⟨x', y', same', kept⟩
    · -- it was taken out at the place of a word before which there are other bytes
      have x_bad : growth x ≠ 0 := fun x_grown => bad ⟨x_grown, grown⟩
      obtain ⟨-, a', w', b', text, cased'', bytes⟩ := exists_of_place found
      have a'_bad : growth a' ≠ 0 := by
        intro a'_grown
        rw [growth_eq_zero_iff, bytes] at a'_grown
        obtain rfl := eq_of_byteLength_eq text a'_grown
        exact x_bad (growth_eq_zero_iff.mpr bytes)
      rcases exists_in_joined text w_outside (space_not_mem outside cased'') grown with
        ⟨rfl, -⟩ | ⟨x', y', same', kept⟩
      · exact (x_bad (growth_eq_zero_iff.mpr bytes)).elim
      · refine ⟨x', w', y', same', by rw [cased'', ← cased, cased'], fun good => ?_⟩
        exact a'_bad (kept ▸ good.1)
    · exact ⟨x', v', y', same', cased', by rwa [kept]⟩

/-! ### All removals -/

/-- The removals of a word that is nowhere misplaced. -/
lemma exists_removes (outside : ' ' ∉ word) (placed : growth s = 0 → ¬Misplaced word s) :
    ∃ t, Removes word s t := by
  induction length : s.length using Nat.strong_induction_on generalizing s with
  | _ n ih =>
    cases found : place? word s with
    | none => exact ⟨s, .done found⟩
    | some place =>
      obtain ⟨grown, a, w, b, rfl, cased, rfl⟩ := exists_of_place found
      -- the word that was found is not misplaced, so its place is that of the bytes
      obtain ⟨before, width⟩ := not_misplaced_iff.mp (placed grown) a w b rfl cased
      rw [cased] at width
      have shorter : (a ++ ' ' :: b).length < n := by
        rw [← length]
        simp only [List.length_append, List.length_cons]
        omega
      have placed' : growth (a ++ ' ' :: b) = 0 → ¬Misplaced word (a ++ ' ' :: b) :=
        fun _ misplaced => placed grown
          (misplaced_of_joined outside (growth_of_width cased width.symm) misplaced)
      obtain ⟨t, more⟩ := ih _ shorter placed' rfl
      exact ⟨t, .splice cased (by rw [found, before]) width.symm more⟩

/-- All removals take out what they should iff no word is misplaced. -/
lemma exists_removesAll_iff {words : List String} (outside : ∀ word ∈ words, ' ' ∉ word.toList) :
    (∃ t, RemovesAll words s t) ↔
      (growth s = 0 → ∀ word ∈ words, ¬Misplaced word.toList s) := by
  induction words generalizing s with
  | nil => exact ⟨fun _ _ _ mem => (List.not_mem_nil mem).elim, fun _ => ⟨s, .nil⟩⟩
  | cons word words ih =>
    obtain ⟨first_outside, outside⟩ := List.forall_mem_cons.mp outside
    constructor
    · rintro ⟨u, removes⟩ grown
      cases removes with
      | @cons _ _ _ t _ first more =>
        have t_grown : growth t = 0 := first.growth_eq.trans grown
        rw [List.forall_mem_cons]
        constructor
        · intro misplaced
          -- the word is still there, and yet no place is found for it
          obtain ⟨a, w, b, text, cased, -⟩ :=
            (first.misplaced_iff first_outside first_outside).mpr misplaced
          exact place_ne_none t_grown text cased first.place_eq_none
        · intro v mem misplaced
          exact (ih outside).mp ⟨u, more⟩ t_grown v mem
            ((first.misplaced_iff first_outside (outside v mem)).mpr misplaced)
    · intro placed
      obtain ⟨t, first⟩ := exists_removes first_outside fun grown =>
        placed grown word List.mem_cons_self
      obtain ⟨u, more⟩ := (ih outside (s := t)).mpr fun grown v mem misplaced =>
        placed (first.growth_eq.symm.trans grown) v (List.mem_cons_of_mem word mem)
          ((first.misplaced_iff first_outside (outside v mem)).mp misplaced)
      exact ⟨u, .cons first more⟩

/-- No noise word has a space in it. -/
lemma space_not_mem_words : ∀ word ∈ words, ' ' ∉ word.toList := by decide +kernel

/-- **Noise words are taken out in their place.** The removal comes to an end without a
fault, and each time takes out a noise word in some letter case with the spaces around
it, iff the text has another number of bytes than its lower case, so that nothing is
removed, or each noise word in it has as many bytes before it and in it as in the lower
case. -/
theorem noiseWords_removes_iff (text : String) (arguments : List String) :
    (∃ t, RemovesAll words (padded text.toList) t ∧
        Sanitizer.noiseWords.apply (.string text) arguments =
          .ok (.string (String.ofList (trim t)))) ↔
      (byteLength (lower (padded text.toList)) = byteLength (padded text.toList) →
        ∀ word ∈ words, ∀ a w b, padded text.toList = a ++ ' ' :: (w ++ ' ' :: b) →
          lower w = word.toList →
            byteLength (lower a) = byteLength a ∧ byteLength (lower w) = byteLength w) := by
  have applied : (∃ t, RemovesAll words (padded text.toList) t ∧
      Sanitizer.noiseWords.apply (.string text) arguments =
        .ok (.string (String.ofList (trim t)))) ↔ ∃ t, RemovesAll words (padded text.toList) t := by
    refine exists_congr fun t => and_iff_left_of_imp fun removes => ?_
    rw [Sanitizer.apply, strip_of_removesAll removes]
    rfl
  rw [applied, exists_removesAll_iff space_not_mem_words, growth_eq_zero_iff]
  exact imp_congr_right fun _ => forall₂_congr fun word _ => not_misplaced_iff

/-- Words are in their place in a text without characters that grow or shrink. -/
lemma kept_of_chars (text : s = a ++ ' ' :: (w ++ ' ' :: b))
    (kept : ∀ c ∈ s, c ≠ 'Σ' → byteLength (lowerChar c) = c.utf8Size) :
    byteLength (lower a) = byteLength a ∧ byteLength (lower w) = byteLength w := by
  rw [text] at kept
  refine ⟨byteLength_lowerAfter [] fun c mem => kept c ?_,
    byteLength_lowerAfter [] fun c mem => kept c ?_⟩
  · exact List.mem_append_left _ mem
  · exact List.mem_append_right _ (List.mem_cons_of_mem _ (List.mem_append_left _ mem))

/-- Words in both cases, next to each other, in an ASCII text. -/
theorem noiseWords_removes_iff_ascii :
    let text := "Tea AND the Cup"
    (∀ word ∈ words, ∀ a w b, padded text.toList = a ++ ' ' :: (w ++ ' ' :: b) →
        lower w = word.toList →
          byteLength (lower a) = byteLength a ∧ byteLength (lower w) = byteLength w) ∧
      (∃ t, RemovesAll words (padded text.toList) t) ∧
      Sanitizer.noiseWords.apply (.string text) [] = .ok (.string "Tea Cup") := by
  intro text
  have ascii : (padded text.toList).all (·.toNat < 128) = true := by decide +kernel
  have placed : ∀ word ∈ words, ∀ a w b, padded text.toList = a ++ ' ' :: (w ++ ' ' :: b) →
      lower w = word.toList →
        byteLength (lower a) = byteLength a ∧ byteLength (lower w) = byteLength w :=
    fun _ _ _ _ _ parts _ =>
      kept_of_chars parts fun c mem _ =>
        byteLength_lowerChar_of_ascii (by simpa using List.all_eq_true.mp ascii c mem)
  obtain ⟨t, removes, -⟩ := (noiseWords_removes_iff text []).mpr fun _ => placed
  have stripped : strip text.toList = .ok "Tea Cup".toList := by decide +kernel
  refine ⟨placed, ⟨t, removes⟩, ?_⟩
  rw [Sanitizer.apply, stripped]
  rfl

/-! ### A text that is divided inside a character -/

/-- The first removal for which a place is found, if it fails, ends all removals. -/
lemma removeWords_of_fault {before after : List String} {next : String} {e : Fault}
    (none : ∀ word ∈ before, place? word.toList s = none)
    (failed : removeWord (spaced next.toList) s = .error e) :
    removeWords (before ++ next :: after) s = .error e := by
  induction before with
  | nil =>
    rw [List.nil_append, removeWords_cons, failed]
    rfl
  | cons word before ih =>
    obtain ⟨first, others⟩ := List.forall_mem_cons.mp none
    rw [List.cons_append, removeWords_cons, removeWord_of_no_place first]
    exact ih others

/-- The sign of the ångström has three bytes, and its lower case has two. -/
lemma lowerChar_angstrom : lowerChar '\u212B' = ['\u00E5'] := by
  have moved : lowerMap.image? '\u212B'.toNat = some '\u00E5'.toNat := by
    rw [lowerMap, CodeMap.ofLines]
    repeat rw [tableWords_cons]
    decide +kernel
  rw [lowerChar, if_neg (by decide), if_neg (by decide), moved]
  rfl

/-- The dotted capital grows by the byte by which the ångström shrinks. -/
lemma lower_padded_the :
    lower (padded "\u0130 the \u212B".toList) = " i\u0307 the \u00E5 ".toList := by
  have parts : padded "\u0130 the \u212B".toList =
      " \u0130 the".toList ++ ' ' :: (['\u212B'] ++ ' ' :: []) := by decide +kernel
  have front : lower " \u0130 the".toList = " i\u0307 the".toList := by decide +kernel
  have last : lower ['\u212B'] = ['\u00E5'] := by
    rw [lower, lowerAfter_cons, lowerPiece, if_neg (by decide), lowerChar_angstrom]
    rfl
  rw [parts, lower_append_space, lower_append_space, last, front]
  decide +kernel

/-- The words before `the` are not in the text, and what is found as `the` with its spaces
would end inside the last letter. -/
lemma strip_the : strip "\u0130 the \u212B".toList = .error .insideCharacter := by
  have order : words =
      words.takeWhile (· ≠ "the") ++ "the" :: (words.dropWhile (· ≠ "the")).tail := by
    decide +kernel
  have others : ∀ word ∈ words.takeWhile (· ≠ "the"),
      place? word.toList (padded "\u0130 the \u212B".toList) = none := by
    intro word mem
    rw [place?, lower_padded_the]
    revert word
    decide +kernel
  have found : place? "the".toList (padded "\u0130 the \u212B".toList) = some 4 := by
    rw [place?, lower_padded_the]
    decide +kernel
  have inside : replaceBytes? 4 (byteLength (spaced "the".toList))
      (padded "\u0130 the \u212B".toList) = none := by decide +kernel
  have failed : removeWord (spaced "the".toList) (padded "\u0130 the \u212B".toList) =
      .error .insideCharacter := by
    rw [removeWord_of_place found, inside]
  rw [strip_eq, order, removeWords_of_fault others failed]
  rfl

/-- A letter before the word grows by a byte and one behind it shrinks by a byte, so that
the text has as many bytes as its lower case, and is divided inside a character. -/
theorem not_noiseWords_removes :
    Sanitizer.noiseWords.apply (.string "\u0130 the \u212B") [] = .error .insideCharacter ∧
      ¬ ∀ (text : String) (arguments : List String), ∃ t,
        RemovesAll words (padded text.toList) t ∧
          Sanitizer.noiseWords.apply (.string text) arguments =
            .ok (.string (String.ofList (trim t))) := by
  have failed : Sanitizer.noiseWords.apply (.string "\u0130 the \u212B") [] =
      .error .insideCharacter := by
    rw [Sanitizer.apply, strip_the]
    rfl
  refine ⟨failed, fun all => ?_⟩
  obtain ⟨t, -, applied⟩ := all "\u0130 the \u212B" []
  rw [failed] at applied
  cases applied

end RecordRules.NoiseWord
