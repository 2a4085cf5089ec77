/-
What is left of a text without its tags.

* `clean_keepNone_iff`: a text has no tag and no comment iff none begins at any of
  its places;
* `clean_stripTags_iff`: a text without its tags has none iff no `<` that is left
  makes one with what is left after it;
* `quoted`, `clean_quoted_iff`: entities in place of quotes make no difference;
* `strip_clean_iff`: when what the sanitizers leave is clean.
-/
import RecordRules.Proofs.Markup.Pieces
import RecordRules.Sanitizer.Basic
import RecordRules.Sanitizer.TextFunction

namespace RecordRules.Markup

/-! ### Texts without any tag -/

/-- No tag is kept. -/
def keepNone : List Char → Bool := fun _ => false

lemma eq_map_char {ps : List Piece} (chars : ∀ p ∈ ps, p.isKept keepNone) : ps = (write ps).map .char := by
  induction ps with
  | nil => rfl
  | cons p ps ih =>
    obtain ⟨first, others⟩ := List.forall_mem_cons.mp chars
    cases p with
    | char c => exact congrArg (.char c :: ·) (ih others)
    | comment text => cases first
    | tag name whole => cases first

lemma write_map_char (s : List Char) : write (s.map .char) = s := by
  induction s with
  | nil => rfl
  | cons c s ih => exact congrArg (c :: ·) ih

lemma keptPieces_keepNone (s : List Char) : keptPieces keepNone s = (stripTags s).map .char := by
  have kept : ∀ p ∈ keptPieces keepNone s, p.isKept keepNone := fun p mem => (List.mem_filter.mp mem).2
  rw [stripTags, stripTagsExcept_eq]
  exact eq_map_char kept

lemma spoils_keepNone_eq_false_iff (s : List Char) :
    spoils keepNone s = false ↔ comment? s = none ∧ tag? s = none := by
  rw [spoils, Bool.or_eq_false_iff, Option.isSome_eq_false_iff, Option.isNone_iff_eq_none]
  cases tag? s <;> simp [keepNone]

lemma clean_keepNone_iff_apart (s : List Char) : Clean keepNone s ↔ Apart keepNone (s.map .char) := by
  constructor
  · intro clean
    induction s with
    | nil => trivial
    | cons c s ih =>
      have no_comment : comment? (c :: s) = none := by
        by_contra found
        obtain ⟨after, found⟩ := Option.ne_none_iff_exists'.mp found
        rw [Clean, pieces_of_comment found] at clean
        cases (List.forall_mem_cons.mp clean).1
      have no_tag : tag? (c :: s) = none := by
        by_contra found
        obtain ⟨tag, found⟩ := Option.ne_none_iff_exists'.mp found
        rw [Clean, pieces_of_tag found] at clean
        cases (List.forall_mem_cons.mp clean).1
      rw [Clean, pieces_of_char no_comment no_tag] at clean
      refine ⟨fun angle => ?_, ih (List.forall_mem_cons.mp clean).2⟩
      cases angle
      rw [write_map_char]
      exact (spoils_keepNone_eq_false_iff _).mpr ⟨no_comment, no_tag⟩
  · intro apart
    have lasting : ∀ p ∈ s.map Piece.char, p.Lasting keepNone := by
      intro p mem
      obtain ⟨c, -, rfl⟩ := List.mem_map.mp mem
      trivial
    have clean := clean_write lasting apart _ List.suffix_rfl
    rwa [write_map_char] at clean

lemma apart_map_char_iff (s : List Char) :
    Apart keepNone (s.map .char) ↔ ∀ rest, rest <:+ s → spoils keepNone rest = false := by
  induction s with
  | nil =>
    refine ⟨fun _ rest suffix => ?_, fun _ => trivial⟩
    rw [List.suffix_nil.mp suffix]
    rfl
  | cons c s ih =>
    rw [List.map_cons, Apart, write_map_char, ih]
    simp only [List.suffix_cons_iff, forall_eq_or_imp]
    refine and_congr_left' ⟨fun apart => ?_, fun none same => ?_⟩
    · by_cases angle : c = '<'
      · subst angle
        exact apart rfl
      · exact spoils_of_ne keepNone angle s
    · cases same
      exact none

/-- A text has no tag and no comment iff none begins at any of its places. -/
theorem clean_keepNone_iff (s : List Char) :
    Clean keepNone s ↔ ∀ rest, rest <:+ s → comment? rest = none ∧ tag? rest = none := by
  rw [clean_keepNone_iff_apart, apart_map_char_iff]
  simp only [spoils_keepNone_eq_false_iff]

/-- A text without its tags has none iff no `<` that is left makes one with what is
left after it. -/
theorem clean_stripTags_iff (s : List Char) :
    Clean keepNone (stripTags s) ↔ Apart keepNone (keptPieces keepNone s) := by
  rw [clean_keepNone_iff_apart, keptPieces_keepNone]

/-! ### Quotes -/

/-- The text with entities in place of quotes. -/
def quoted (s : List Char) : List Char := s.flatMap Sanitizer.quoteEntity

/-- A character stays, or it is a quote and its entity has no character of markup. -/
lemma quoted_cons (c : Char) (s : List Char) :
    (c ≠ '"' ∧ c ≠ '\'' ∧ quoted (c :: s) = c :: quoted s) ∨
      ((c = '"' ∨ c = '\'') ∧
        ∃ d, (d = '4' ∨ d = '9') ∧ quoted (c :: s) = '&' :: '#' :: '3' :: d :: ';' :: quoted s) := by
  by_cases double : c = '"'
  · subst double
    have entity : Sanitizer.quoteEntity '"' = ['&', '#', '3', '4', ';'] := by decide +kernel
    refine .inr ⟨.inl rfl, '4', .inl rfl, ?_⟩
    rw [quoted, List.flatMap_cons, entity]
    rfl
  · by_cases single : c = '\''
    · subst single
      have entity : Sanitizer.quoteEntity '\'' = ['&', '#', '3', '9', ';'] := by decide +kernel
      refine .inr ⟨.inr rfl, '9', .inr rfl, ?_⟩
      rw [quoted, List.flatMap_cons, entity]
      rfl
    · refine .inl ⟨double, single, ?_⟩
      rw [quoted, List.flatMap_cons, Sanitizer.quoteEntity, if_neg (not_or.mpr ⟨double, single⟩)]
      rfl

section Plain

variable {plain : List Char}

/-- Text without quotes and without the start of an entity is found at the same
places. -/
lemma isPrefixOf_quoted (h : ∀ c ∈ plain, c ≠ '"' ∧ c ≠ '\'' ∧ c ≠ '&') (s : List Char) :
    plain.isPrefixOf (quoted s) = plain.isPrefixOf s := by
  induction plain generalizing s with
  | nil => rfl
  | cons n plain ih =>
    obtain ⟨⟨no_double, no_single, no_entity⟩, others⟩ := List.forall_mem_cons.mp h
    cases s with
    | nil => rfl
    | cons c s =>
      rcases quoted_cons c s with ⟨-, -, stays⟩ | ⟨quote, d, -, entity⟩
      · rw [stays, List.isPrefixOf_cons_cons, List.isPrefixOf_cons_cons, ih others]
      · have no_quote : n ≠ c := by
          rcases quote with rfl | rfl
          · exact no_double
          · exact no_single
        rw [entity, List.isPrefixOf_cons_cons, List.isPrefixOf_cons_cons, beq_false_of_ne no_entity,
          beq_false_of_ne no_quote, Bool.false_and, Bool.false_and]

lemma prefix_quoted_iff (h : ∀ c ∈ plain, c ≠ '"' ∧ c ≠ '\'' ∧ c ≠ '&') (s : List Char) :
    plain <+: quoted s ↔ plain <+: s := by
  rw [← List.isPrefixOf_iff_prefix, ← List.isPrefixOf_iff_prefix, isPrefixOf_quoted h]

lemma quoted_append (h : ∀ c ∈ plain, c ≠ '"' ∧ c ≠ '\'' ∧ c ≠ '&') (rest : List Char) :
    quoted (plain ++ rest) = plain ++ quoted rest := by
  induction plain with
  | nil => rfl
  | cons n plain ih =>
    obtain ⟨⟨no_double, no_single, -⟩, others⟩ := List.forall_mem_cons.mp h
    rcases quoted_cons n (plain ++ rest) with ⟨-, -, stays⟩ | ⟨quote, -⟩
    · rw [List.cons_append, stays, ih others]
      rfl
    · exact absurd quote (not_or.mpr ⟨no_double, no_single⟩)

end Plain

/-- The end of a comment is found in a text iff it is found with entities in place
of quotes. -/
lemma isSome_splitOnFirst?_quoted (s : List Char) :
    (Text.splitOnFirst? ['-', '-', '>'] (quoted s)).isSome = (Text.splitOnFirst? ['-', '-', '>'] s).isSome := by
  induction s with
  | nil => rfl
  | cons c s ih =>
    have same : ['-', '-', '>'].isPrefixOf (quoted (c :: s)) = ['-', '-', '>'].isPrefixOf (c :: s) :=
      isPrefixOf_quoted (by simp) (c :: s)
    rcases quoted_cons c s with ⟨-, -, stays⟩ | ⟨quote, d, digit, entity⟩
    · rw [stays] at same ⊢
      rw [Text.splitOnFirst?, Text.splitOnFirst?, same]
      split
      · rfl
      · rw [Option.isSome_map, Option.isSome_map, ih]
    · rw [entity]
      rcases quote with rfl | rfl <;> rcases digit with rfl | rfl <;> simp [Text.splitOnFirst?, ih]

lemma isSome_throughAngle?_iff (s : List Char) : (throughAngle? s).isSome ↔ '>' ∈ s := by
  induction s with
  | nil => simp [throughAngle?]
  | cons c s ih =>
    rw [throughAngle?, List.mem_cons]
    split
    · next angle => simp [angle]
    · next other => simp [ih, Ne.symm other]

lemma mem_angle_quoted (s : List Char) : '>' ∈ quoted s ↔ '>' ∈ s := by
  induction s with
  | nil => rfl
  | cons c s ih =>
    rcases quoted_cons c s with ⟨-, -, stays⟩ | ⟨rfl | rfl, d, rfl | rfl, entity⟩
    · rw [stays, List.mem_cons, List.mem_cons, ih]
    all_goals simp [entity, ih]

lemma takeWhile_isAlphanum_quoted (s : List Char) :
    (quoted s).takeWhile Char.isAlphanum = s.takeWhile Char.isAlphanum := by
  induction s with
  | nil => rfl
  | cons c s ih =>
    rcases quoted_cons c s with ⟨-, -, stays⟩ | ⟨rfl | rfl, d, -, entity⟩
    · rw [stays, List.takeWhile_cons, List.takeWhile_cons, ih]
    all_goals rw [entity, List.takeWhile_cons_of_neg (by decide), List.takeWhile_cons_of_neg (by decide)]

lemma dropWhile_isAlphanum_quoted (s : List Char) :
    (quoted s).dropWhile Char.isAlphanum = quoted (s.dropWhile Char.isAlphanum) := by
  induction s with
  | nil => rfl
  | cons c s ih =>
    rcases quoted_cons c s with ⟨-, -, stays⟩ | ⟨rfl | rfl, d, -, entity⟩
    · rw [stays, List.dropWhile_cons, List.dropWhile_cons, ih, ← stays]
      split <;> rfl
    all_goals rw [entity, List.dropWhile_cons_of_neg (by decide), List.dropWhile_cons_of_neg (by decide), entity]

lemma head?_isWordChar_quoted (s : List Char) :
    (quoted s).head?.any Text.isWordChar = s.head?.any Text.isWordChar := by
  cases s with
  | nil => rfl
  | cons c s =>
    rcases quoted_cons c s with ⟨-, -, stays⟩ | ⟨rfl | rfl, d, -, entity⟩
    · rw [stays]
      rfl
    all_goals
      rw [entity, List.head?_cons, List.head?_cons]
      decide +kernel

lemma isSome_tagBody?_quoted (opening s : List Char) :
    (tagBody? opening (quoted s)).isSome = (tagBody? opening s).isSome := by
  simp only [tagBody?]
  rw [takeWhile_isAlphanum_quoted, dropWhile_isAlphanum_quoted, head?_isWordChar_quoted]
  split
  · rw [Option.isSome_map, Option.isSome_map, Bool.eq_iff_iff, isSome_throughAngle?_iff, isSome_throughAngle?_iff,
      mem_angle_quoted]
  · rfl

lemma comment?_of_not_opening {s : List Char} (other : ¬ ['!', '-', '-'] <+: s) : comment? ('<' :: s) = none := by
  rw [comment?.eq_def]
  split
  · next rest same =>
    cases same
    exact absurd (List.prefix_append ['!', '-', '-'] rest) other
  · rfl

lemma tag?_of_not_closing {s : List Char} (other : ¬ ['/'] <+: s) : tag? ('<' :: s) = tagBody? ['<'] s := by
  rw [tag?.eq_def]
  split
  · next rest same =>
    cases same
    exact absurd (List.prefix_append ['/'] rest) other
  · next rest _ same =>
    cases same
    rfl
  · next _ no_angle => exact absurd rfl (no_angle s)

lemma isSome_comment?_quoted (s : List Char) :
    (comment? ('<' :: quoted s)).isSome = (comment? ('<' :: s)).isSome := by
  by_cases opens : ['!', '-', '-'] <+: s
  · obtain ⟨rest, rfl⟩ := opens
    rw [quoted_append (by simp)]
    have same := isSome_splitOnFirst?_quoted rest
    simpa [comment?] using same
  · rw [comment?_of_not_opening opens, comment?_of_not_opening (mt (prefix_quoted_iff (by simp) s).mp opens)]

lemma isSome_tag?_quoted (s : List Char) : (tag? ('<' :: quoted s)).isSome = (tag? ('<' :: s)).isSome := by
  by_cases closing : ['/'] <+: s
  · obtain ⟨rest, rfl⟩ := closing
    rw [quoted_append (by simp)]
    exact isSome_tagBody?_quoted ['<', '/'] rest
  · rw [tag?_of_not_closing closing, tag?_of_not_closing (mt (prefix_quoted_iff (by simp) s).mp closing)]
    exact isSome_tagBody?_quoted ['<'] s

lemma spoils_keepNone_quoted (s : List Char) : spoils keepNone ('<' :: quoted s) = spoils keepNone ('<' :: s) := by
  rw [Bool.eq_iff_iff, ← not_iff_not]
  simp only [Bool.not_eq_true, spoils_keepNone_eq_false_iff, ← Option.not_isSome_iff_eq_none,
    isSome_comment?_quoted, isSome_tag?_quoted]

lemma apart_map_char_quoted_iff (s : List Char) :
    Apart keepNone ((quoted s).map .char) ↔ Apart keepNone (s.map .char) := by
  induction s with
  | nil => rfl
  | cons c s ih =>
    rcases quoted_cons c s with ⟨-, -, stays⟩ | ⟨rfl | rfl, d, rfl | rfl, entity⟩
    · rw [stays, List.map_cons, List.map_cons, Apart, Apart, write_map_char, write_map_char, ih,
        spoils_keepNone_quoted]
    all_goals simp [entity, Apart, ih]

/-- Entities in place of quotes make no difference to tags and comments. -/
theorem clean_quoted_iff (s : List Char) : Clean keepNone (quoted s) ↔ Clean keepNone s := by
  rw [clean_keepNone_iff_apart, clean_keepNone_iff_apart, apart_map_char_quoted_iff]

/-! ### What the sanitizers leave -/

/-- The tags of basic formatting are kept. -/
def keepBasic : List Char → Bool := fun name => basicTags.contains (String.ofList name)

lemma string_apply (s : List Char) (arguments : List String) :
    Sanitizer.string.apply (.string (String.ofList s)) arguments =
      .ok (.string (String.ofList (quoted (stripTags s)))) := by
  rw [Sanitizer.apply, Sanitizer.mapText, String.toList_ofList]
  rfl

lemma basicTags_apply (s : List Char) (arguments : List String) :
    Sanitizer.basicTags.apply (.string (String.ofList s)) arguments =
      .ok (.string (String.ofList (stripTagsExcept keepBasic s))) := by
  rw [Sanitizer.apply, Sanitizer.mapText, String.toList_ofList]
  rfl

/-- **What stripping leaves.** Of the pieces of a text those are left that are kept.
Together they are clean, that is without comments and without tags but those that
are kept, exactly if they stay when they are stripped once more. They are clean if no
`<` that is left makes a comment or a tag that is not kept with what is left after
it; where no tag is kept, only then. So it is for the text function that strips tags,
for `string`, which also puts entities in place of quotes, and for
`basichtmltags`. Where no tag is kept, a text is clean iff neither a comment nor a tag
begins at any of its places. -/
theorem strip_clean_iff (keep : List Char → Bool) (s : List Char) (arguments : List String) :
    (write (pieces s) = s ∧ stripTagsExcept keep s = write (keptPieces keep s)) ∧
    (Clean keep (stripTagsExcept keep s) ↔
      stripTagsExcept keep (stripTagsExcept keep s) = stripTagsExcept keep s) ∧
    (Apart keep (keptPieces keep s) → Clean keep (stripTagsExcept keep s)) ∧
    (Clean keepNone (TextFunction.stripTags.apply s) ↔ Apart keepNone (keptPieces keepNone s)) ∧
    (∀ left, Clean keepNone left ↔ ∀ rest, rest <:+ left → comment? rest = none ∧ tag? rest = none) ∧
    (∃ out, Sanitizer.string.apply (.string (String.ofList s)) arguments = .ok (.string (String.ofList out)) ∧
      (Clean keepNone out ↔ Apart keepNone (keptPieces keepNone s))) ∧
    ∃ out, Sanitizer.basicTags.apply (.string (String.ofList s)) arguments = .ok (.string (String.ofList out)) ∧
      (Clean keepBasic out ↔ stripTagsExcept keepBasic out = out) ∧
      (Apart keepBasic (keptPieces keepBasic s) → Clean keepBasic out) := by
  refine ⟨⟨write_pieces s, stripTagsExcept_eq keep s⟩, clean_iff keep _, clean_of_apart, clean_stripTags_iff s,
    clean_keepNone_iff, ⟨_, string_apply s arguments, ?_⟩, _, basicTags_apply s arguments, clean_iff keepBasic _,
    clean_of_apart⟩
  rw [clean_quoted_iff, clean_stripTags_iff]

/-- A comment, a tag and a `<` that is followed by a blank. -/
theorem strip_clean_iff_blank :
    Clean keepNone (TextFunction.stripTags.apply "1 < 2 <b title='x'>or</b><!-- <i> --> not".toList) ∧
      Clean keepBasic (stripTagsExcept keepBasic "1 < 2 <b title='x'>or</b><script>x".toList) := by
  obtain ⟨-, -, -, function, -⟩ :=
    strip_clean_iff keepNone "1 < 2 <b title='x'>or</b><!-- <i> --> not".toList []
  obtain ⟨-, -, basic, -⟩ := strip_clean_iff keepBasic "1 < 2 <b title='x'>or</b><script>x".toList []
  exact ⟨function.mpr (by decide +kernel), basic (by decide +kernel)⟩

/-- A `<` before a tag that goes makes a new tag with what follows that tag. -/
theorem not_clean_strip :
    ¬ (∀ keep s, Clean keep (stripTagsExcept keep s)) ∧
      ¬ (∀ s, Clean keepNone (TextFunction.stripTags.apply s)) ∧
      ¬ (∀ text out arguments, Sanitizer.string.apply (.string text) arguments = .ok (.string out) →
        Clean keepNone out.toList) ∧
      ¬ ∀ text out arguments, Sanitizer.basicTags.apply (.string text) arguments = .ok (.string out) →
        Clean keepBasic out.toList := by
  have tag : ¬ Clean keepNone (stripTags "<<x>script>".toList) := by decide +kernel
  have tag' : ¬ Clean keepBasic (stripTagsExcept keepBasic "<<x>script>".toList) := by decide +kernel
  refine ⟨fun clean => tag (clean keepNone _), fun clean => tag (clean _), fun clean => tag ?_,
    fun clean => tag' ?_⟩
  · have left := clean _ _ _ (string_apply "<<x>script>".toList [])
    rwa [String.toList_ofList, clean_quoted_iff] at left
  · have left := clean _ _ _ (basicTags_apply "<<x>script>".toList [])
    rwa [String.toList_ofList] at left

end RecordRules.Markup
