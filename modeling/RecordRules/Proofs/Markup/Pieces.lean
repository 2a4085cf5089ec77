/-
The pieces of a text with markup.

* `IsBody`, `tag?_eq_some`: a tag goes through the first `>`, and it is found again
  before any other text;
* `Piece`, `pieces`: the comments, the tags and the other characters of a text, as
  they are found from left to right;
* `write_pieces`: the pieces make up the text;
* `stripTagsExcept_eq`: what is left of a text are the pieces that are kept;
* `Clean`, `clean_iff`: a text of kept pieces only, which is one that stays when it
  is stripped;
* `Apart`, `clean_of_apart`: what is left of a text is clean if no `<` of it makes
  a comment or a tag that is not kept with what is left after it.
-/
import Mathlib.Data.List.Basic
import Mathlib.Tactic.Lemma
import RecordRules.Sanitizer.Markup

namespace RecordRules.Markup

/-! ### Tags by their own characters -/

section Run

variable {p : Char → Bool} {run : List Char} {c : Char}

lemma takeWhile_append_cons (all : ∀ d ∈ run, p d = true) (stops : p c = false) (rest : List Char) :
    (run ++ c :: rest).takeWhile p = run := by
  rw [List.takeWhile_append_of_pos all, List.takeWhile_cons_of_neg (ne_true_of_eq_false stops), List.append_nil]

lemma dropWhile_append_cons (all : ∀ d ∈ run, p d = true) (stops : p c = false) (rest : List Char) :
    (run ++ c :: rest).dropWhile p = c :: rest := by
  rw [List.dropWhile_append_of_pos all, List.dropWhile_cons_of_neg (ne_true_of_eq_false stops)]

end Run

lemma throughAngle?_eq_some {s front after : List Char} (h : throughAngle? s = some (front, after)) :
    front ≠ [] ∧ s = front ++ after ∧ ∀ more, throughAngle? (front ++ more) = some (front, more) := by
  induction s generalizing front after with
  | nil => cases h
  | cons c rest ih =>
    rw [throughAngle?] at h
    split at h
    · next angle =>
      cases h
      exact ⟨List.cons_ne_nil _ _, by rw [angle]; rfl, fun _ => rfl⟩
    · next other =>
      obtain ⟨⟨front', after'⟩, found, same⟩ := Option.map_eq_some_iff.mp h
      cases same
      obtain ⟨-, rfl, again⟩ := ih found
      refine ⟨List.cons_ne_nil _ _, rfl, fun more => ?_⟩
      rw [List.cons_append, throughAngle?, if_neg other, again]
      rfl

lemma throughAngle?_append {s front after : List Char} (h : throughAngle? s = some (front, after))
    {before : List Char} (no_angle : ∀ c ∈ before, c ≠ '>') :
    throughAngle? (before ++ s) = some (before ++ front, after) := by
  induction before with
  | nil => exact h
  | cons c before ih =>
    obtain ⟨first, others⟩ := List.forall_mem_cons.mp no_angle
    rw [List.cons_append, throughAngle?, if_neg first, ih others]
    rfl

/-- The text of a tag after its opening: a name of ASCII letters and digits that
begins with a letter and ends where a word does, and the text through the first
`>`. -/
structure IsBody (name front : List Char) : Prop where
  letter : ∃ c rest, name = c :: rest ∧ c.isAlpha = true
  alnum : ∀ c ∈ name, c.isAlphanum = true
  boundary : ∃ d rest, front = d :: rest ∧ d.isAlphanum = false ∧ Text.isWordChar d = false
  closes : ∀ more, throughAngle? (front ++ more) = some (front, more)

lemma IsBody.tagBody? {name front : List Char} (h : IsBody name front) (opening more : List Char) :
    tagBody? opening (name ++ (front ++ more)) = some ⟨name, opening ++ name ++ front, more⟩ := by
  obtain ⟨c, name', rfl, letter⟩ := h.letter
  obtain ⟨d, front', rfl, stops, no_word⟩ := h.boundary
  have named : ((c :: name').head?.any Char.isAlpha && !(d :: front' ++ more).head?.any Text.isWordChar) = true := by
    simp [letter, no_word]
  have text : c :: name' ++ (d :: front' ++ more) = c :: name' ++ d :: (front' ++ more) := rfl
  simp only [Markup.tagBody?]
  rw [text, takeWhile_append_cons h.alnum stops, dropWhile_append_cons h.alnum stops, ← List.cons_append,
    h.closes more, if_pos named]
  rfl

lemma exists_isBody {opening s : List Char} {tag : Tag} (h : tagBody? opening s = some tag) :
    ∃ front, IsBody tag.name front ∧ tag.whole = opening ++ tag.name ++ front ∧
      s = tag.name ++ (front ++ tag.after) := by
  simp only [tagBody?] at h
  split at h
  case isFalse => cases h
  case isTrue named =>
    obtain ⟨⟨front, after⟩, found, rfl⟩ := Option.map_eq_some_iff.mp h
    obtain ⟨nonempty, divided, closes⟩ := throughAngle?_eq_some found
    obtain ⟨letter, no_word⟩ := Bool.and_eq_true_iff.mp named
    refine ⟨front, ⟨?_, List.all_eq_true.mp List.all_takeWhile, ?_, closes⟩, rfl, ?_⟩
    · cases name : s.takeWhile Char.isAlphanum with
      | nil =>
        rw [name] at letter
        cases letter
      | cons c rest =>
        rw [name] at letter
        exact ⟨c, rest, rfl, letter⟩
    · obtain ⟨d, rest, rfl⟩ := List.exists_cons_of_ne_nil nonempty
      have stops := List.head?_dropWhile_not Char.isAlphanum s
      rw [divided] at stops no_word
      exact ⟨d, rest, rfl, stops, by simpa using no_word⟩
    · rw [← divided, List.takeWhile_append_dropWhile]

lemma IsBody.throughAngle? {name front : List Char} (h : IsBody name front) (more : List Char) :
    throughAngle? (name ++ (front ++ more)) = some (name ++ front, more) := by
  refine throughAngle?_append (h.closes more) ?_
  rintro _ mem rfl
  exact absurd (h.alnum _ mem) (by decide)

/-- A tag goes through the first `>`, and it is found again before any other text. -/
lemma tag?_eq_some {s : List Char} {tag : Tag} (h : tag? s = some tag) :
    throughAngle? s = some (tag.whole, tag.after) ∧
      ∀ more, tag? (tag.whole ++ more) = some { tag with after := more } := by
  rw [tag?.eq_def] at h
  split at h
  · obtain ⟨front, body, whole, rfl⟩ := exists_isBody h
    have no_angle : ∀ c ∈ ['<', '/'], c ≠ '>' := by simp
    rw [whole, List.append_assoc]
    refine ⟨throughAngle?_append (body.throughAngle? _) no_angle, fun more => ?_⟩
    have again := body.tagBody? ['<', '/'] more
    rw [List.append_assoc, List.append_assoc]
    exact again
  · obtain ⟨front, body, whole, rfl⟩ := exists_isBody h
    have no_angle : ∀ c ∈ ['<'], c ≠ '>' := by simp
    rw [whole, List.append_assoc]
    refine ⟨throughAngle?_append (body.throughAngle? _) no_angle, fun more => ?_⟩
    have again := body.tagBody? ['<'] more
    obtain ⟨c, rest, named, letter⟩ := body.letter
    have no_slash : c ≠ '/' := by
      rintro rfl
      cases letter
    rw [named] at again ⊢
    simpa [tag?, no_slash] using again
  · cases h

lemma eq_append_of_tag? {s : List Char} {tag : Tag} (h : tag? s = some tag) : s = tag.whole ++ tag.after :=
  (throughAngle?_eq_some (tag?_eq_some h).1).2.1

/-- What begins with a tag does not begin with a comment. -/
lemma comment?_of_tag? {s : List Char} {tag : Tag} (h : tag? s = some tag) : comment? s = none := by
  rw [tag?.eq_def] at h
  split at h
  · rfl
  · obtain ⟨front, body, -, rfl⟩ := exists_isBody h
    obtain ⟨c, rest, named, letter⟩ := body.letter
    have no_bang : c ≠ '!' := by
      rintro rfl
      cases letter
    rw [named]
    simp [comment?, no_bang]
  · cases h

lemma tag?_of_ne {c : Char} (other : c ≠ '<') (rest : List Char) : tag? (c :: rest) = none := by
  simp [tag?, other]

lemma comment?_of_ne {c : Char} (other : c ≠ '<') (rest : List Char) : comment? (c :: rest) = none := by
  simp [comment?, other]

/-! ### Pieces -/

/-- A piece of a text: a comment, a tag by its name, or one of the other
characters. -/
inductive Piece where
  | char (c : Char)
  | comment (text : List Char)
  | tag (name whole : List Char)
  deriving DecidableEq

namespace Piece

/-- The text of a piece. -/
def text : Piece → List Char
  | char c => [c]
  | comment text => text
  | tag _ whole => whole

/-- Whether a piece is kept: no comment is, and a tag by its name in lower case. -/
def isKept (keep : List Char → Bool) : Piece → Bool
  | char _ => true
  | comment _ => false
  | tag name _ => keep (Text.lower name)

end Piece

/-- The pieces of a text from left to right. Each begins where the one before it
ends; where no comment and no tag begins there is a character. -/
def pieces (s : List Char) : List Piece :=
  match s with
  | [] => []
  | c :: rest =>
    match _comment : comment? (c :: rest) with
    | some after => .comment ((c :: rest).take ((c :: rest).length - after.length)) :: pieces after
    | none =>
      match _tag : tag? (c :: rest) with
      | some tag => .tag tag.name tag.whole :: pieces tag.after
      | none => .char c :: pieces rest
termination_by s.length
decreasing_by
  · exact comment?_length _comment
  · exact tag?_length _tag
  · simp

/-- The text that pieces make up. -/
def write (ps : List Piece) : List Char := ps.flatMap Piece.text

/-- The pieces of a text that are kept. -/
def keptPieces (keep : List Char → Bool) (s : List Char) : List Piece := (pieces s).filter (Piece.isKept keep)

lemma pieces_of_comment {s after : List Char} (h : comment? s = some after) :
    pieces s = .comment (s.take (s.length - after.length)) :: pieces after := by
  cases s with
  | nil => cases h
  | cons c rest =>
    rw [pieces]
    split
    · next found =>
      rw [h] at found
      cases found
      rfl
    · next found => exact absurd (h.symm.trans found) (Option.some_ne_none _)

lemma pieces_of_tag {s : List Char} {tag : Tag} (h : tag? s = some tag) :
    pieces s = .tag tag.name tag.whole :: pieces tag.after := by
  cases s with
  | nil => cases h
  | cons c rest =>
    rw [pieces]
    split
    · next found => exact absurd (found.symm.trans (comment?_of_tag? h)) (Option.some_ne_none _)
    · split
      · next found =>
        rw [h] at found
        cases found
        rfl
      · next found => exact absurd (h.symm.trans found) (Option.some_ne_none _)

lemma pieces_of_char {c : Char} {rest : List Char} (no_comment : comment? (c :: rest) = none)
    (no_tag : tag? (c :: rest) = none) : pieces (c :: rest) = .char c :: pieces rest := by
  rw [pieces]
  split
  · next found => exact absurd (found.symm.trans no_comment) (Option.some_ne_none _)
  · split
    · next found => exact absurd (found.symm.trans no_tag) (Option.some_ne_none _)
    · rfl

lemma splitOnFirst?_suffix {needle s front after : List Char}
    (h : Text.splitOnFirst? needle s = some (front, after)) : after <:+ s := by
  induction s generalizing front after with
  | nil =>
    rw [Text.splitOnFirst?] at h
    split at h <;> cases h
    exact List.suffix_rfl
  | cons c rest ih =>
    rw [Text.splitOnFirst?] at h
    split at h
    · cases h
      exact List.drop_suffix _ _
    · obtain ⟨⟨front', after'⟩, found, same⟩ := Option.map_eq_some_iff.mp h
      cases same
      exact (ih found).trans (List.suffix_cons c rest)

lemma comment?_suffix {s after : List Char} (h : comment? s = some after) : after <:+ s := by
  rw [comment?.eq_def] at h
  split at h
  · next rest =>
    obtain ⟨⟨front, after'⟩, found, rfl⟩ := Option.map_eq_some_iff.mp h
    exact (splitOnFirst?_suffix found).trans (List.suffix_append ['<', '!', '-', '-'] rest)
  · cases h

/-- What holds of every comment, every tag and every character holds of the pieces of
a text. -/
lemma forall_mem_pieces {P : Piece → Prop} {s : List Char}
    (comment : ∀ s after, comment? s = some after → P (.comment (s.take (s.length - after.length))))
    (tag : ∀ s tag, tag? s = some tag → P (.tag tag.name tag.whole)) (char : ∀ c, P (.char c)) :
    ∀ p ∈ pieces s, P p := by
  fun_induction pieces s with
  | case1 => exact nofun
  | case2 c rest after found ih => exact List.forall_mem_cons.mpr ⟨comment _ _ found, ih⟩
  | case3 c rest no_comment t found ih => exact List.forall_mem_cons.mpr ⟨tag _ _ found, ih⟩
  | case4 c rest no_comment no_tag ih => exact List.forall_mem_cons.mpr ⟨char c, ih⟩

lemma write_cons (p : Piece) (ps : List Piece) : write (p :: ps) = p.text ++ write ps := List.flatMap_cons

/-- The pieces make up the text. -/
theorem write_pieces (s : List Char) : write (pieces s) = s := by
  fun_induction pieces s with
  | case1 => rfl
  | case2 c rest after found ih =>
    have ends : after = (c :: rest).drop ((c :: rest).length - after.length) :=
      List.suffix_iff_eq_drop.mp (comment?_suffix found)
    have joined := List.take_append_drop ((c :: rest).length - after.length) (c :: rest)
    rw [← ends] at joined
    rw [write_cons, ih]
    exact joined
  | case3 c rest no_comment tag found ih =>
    rw [write_cons, ih]
    exact (eq_append_of_tag? found).symm
  | case4 c rest no_comment no_tag ih =>
    rw [write_cons, ih]
    rfl

/-- What is left of a text are the pieces that are kept. -/
theorem stripTagsExcept_eq (keep : List Char → Bool) (s : List Char) :
    stripTagsExcept keep s = write (keptPieces keep s) := by
  fun_induction stripTagsExcept keep s with
  | case1 => rw [keptPieces, pieces]; rfl
  | case2 c rest after found ih => rw [ih, keptPieces, keptPieces, pieces_of_comment found]; rfl
  | case3 c rest no_comment tag found ih =>
    rw [ih, keptPieces, keptPieces, pieces_of_tag found, List.filter_cons, Piece.isKept]
    split
    · rw [write_cons]
      rfl
    · rfl
  | case4 c rest no_comment no_tag ih => rw [ih, keptPieces, keptPieces, pieces_of_char no_comment no_tag]; rfl

/-! ### Clean texts -/

/-- Everything that is found in a text from left to right is kept: it has no comment,
and no tag but those whose name in lower case is kept. -/
def Clean (keep : List Char → Bool) (s : List Char) : Prop := ∀ p ∈ pieces s, p.isKept keep

instance (keep : List Char → Bool) (s : List Char) : Decidable (Clean keep s) :=
  inferInstanceAs (Decidable (∀ p ∈ pieces s, p.isKept keep))

lemma text_ne_nil (s : List Char) : ∀ p ∈ pieces s, p.text ≠ [] := by
  refine forall_mem_pieces (fun s after found => ?_) (fun s tag found empty => ?_) fun c => List.cons_ne_nil c []
  · have shorter := comment?_length found
    refine List.ne_nil_of_length_pos ?_
    rw [Piece.text, List.length_take]
    omega
  · exact (throughAngle?_eq_some (tag?_eq_some found).1).1 empty

lemma length_write_filter_le (f : Piece → Bool) (ps : List Piece) :
    (write (ps.filter f)).length ≤ (write ps).length := by
  induction ps with
  | nil => exact Nat.le_refl _
  | cons p ps ih =>
    rw [List.filter_cons]
    split <;> simp only [write_cons, List.length_append] <;> omega

/-- Pieces that are left out are missed in the text. -/
lemma filter_eq_self_of_write {f : Piece → Bool} {ps : List Piece} (visible : ∀ p ∈ ps, p.text ≠ [])
    (same : write (ps.filter f) = write ps) : ps.filter f = ps := by
  induction ps with
  | nil => rfl
  | cons p ps ih =>
    obtain ⟨first, others⟩ := List.forall_mem_cons.mp visible
    rw [List.filter_cons] at same ⊢
    split
    · next kept =>
      rw [if_pos kept, write_cons, write_cons] at same
      exact congrArg (p :: ·) (ih others (List.append_cancel_left same))
    · next left_out =>
      rw [if_neg left_out, write_cons] at same
      have shorter := length_write_filter_le f ps
      have there := List.length_pos_of_ne_nil first
      rw [same, List.length_append] at shorter
      omega

/-- A text is clean iff stripping it leaves it as it is. -/
theorem clean_iff (keep : List Char → Bool) (s : List Char) : Clean keep s ↔ stripTagsExcept keep s = s := by
  rw [stripTagsExcept_eq, keptPieces]
  constructor
  · intro clean
    rw [List.filter_eq_self.mpr clean, write_pieces]
  · intro same
    refine List.filter_eq_self.mp (filter_eq_self_of_write (text_ne_nil s) ?_)
    rw [same, write_pieces]

/-! ### What goes together -/

/-- A comment begins here, or a tag that is not kept. -/
def spoils (keep : List Char → Bool) (s : List Char) : Bool :=
  (comment? s).isSome || (tag? s).any fun tag => !keep (Text.lower tag.name)

/-- Pieces of which no `<` makes a comment or a tag that is not kept with what
follows it. -/
def Apart (keep : List Char → Bool) : List Piece → Prop
  | [] => True
  | p :: ps => (p = .char '<' → spoils keep ('<' :: write ps) = false) ∧ Apart keep ps

instance (keep : List Char → Bool) : (ps : List Piece) → Decidable (Apart keep ps)
  | [] => inferInstanceAs (Decidable True)
  | p :: ps =>
    have := instDecidableApart keep ps
    inferInstanceAs (Decidable ((p = .char '<' → spoils keep ('<' :: write ps) = false) ∧ Apart keep ps))

lemma spoils_of_ne {c : Char} (keep : List Char → Bool) (other : c ≠ '<') (rest : List Char) :
    spoils keep (c :: rest) = false := by
  rw [spoils, comment?_of_ne other, tag?_of_ne other]
  rfl

/-- A piece that is kept, and a tag that is found again before any other text. -/
def Piece.Lasting (keep : List Char → Bool) : Piece → Prop
  | char _ => True
  | comment _ => False
  | tag name whole => keep (Text.lower name) ∧ ∀ more, tag? (whole ++ more) = some ⟨name, whole, more⟩

variable {keep : List Char → Bool} {ps : List Piece}

lemma lasting_keptPieces (keep : List Char → Bool) (s : List Char) : ∀ p ∈ keptPieces keep s, p.Lasting keep := by
  have lasting : ∀ p ∈ pieces s, p.isKept keep → p.Lasting keep :=
    forall_mem_pieces (fun _ _ _ => nofun) (fun _ _ found kept => ⟨kept, (tag?_eq_some found).2⟩) fun _ _ => trivial
  intro p mem
  obtain ⟨mem, kept⟩ := List.mem_filter.mp mem
  exact lasting p mem kept

/-- The first `>` in the text of kept pieces is the end of one of them. -/
lemma exists_suffix_of_throughAngle? (lasting : ∀ p ∈ ps, p.Lasting keep) {front after : List Char}
    (h : throughAngle? (write ps) = some (front, after)) : ∃ qs, qs <:+ ps ∧ after = write qs := by
  induction ps generalizing front with
  | nil => cases h
  | cons p ps ih =>
    obtain ⟨first, others⟩ := List.forall_mem_cons.mp lasting
    rw [write_cons] at h
    cases p with
    | comment text => exact first.elim
    | tag name whole =>
      have reached := (tag?_eq_some (first.2 (write ps))).1
      rw [Piece.text, reached] at h
      cases h
      exact ⟨ps, List.suffix_cons _ _, rfl⟩
    | char c =>
      rw [Piece.text, List.singleton_append, throughAngle?] at h
      split at h
      · cases h
        exact ⟨ps, List.suffix_cons _ _, rfl⟩
      · obtain ⟨⟨front', after'⟩, found, same⟩ := Option.map_eq_some_iff.mp h
        cases same
        obtain ⟨qs, suffix, rfl⟩ := ih others found
        exact ⟨qs, suffix.trans (List.suffix_cons _ _), rfl⟩

/-- The text of kept pieces that are apart is clean: where a `<` among them makes a
tag with what follows it, the tag is kept, and it ends where one of the pieces does. -/
lemma clean_write (lasting : ∀ p ∈ ps, p.Lasting keep) (apart : Apart keep ps) :
    ∀ qs, qs <:+ ps → Clean keep (write qs) := by
  induction ps with
  | nil =>
    intro qs suffix
    rw [List.suffix_nil.mp suffix]
    simp [write, Clean, pieces]
  | cons p ps ih =>
    obtain ⟨first, others⟩ := List.forall_mem_cons.mp lasting
    have ih := ih others apart.2
    intro qs suffix
    rcases List.suffix_cons_iff.mp suffix with rfl | suffix
    case inr => exact ih qs suffix
    rw [write_cons]
    cases p with
    | comment text => exact first.elim
    | tag name whole =>
      rw [Piece.text, Clean, pieces_of_tag (first.2 _)]
      exact List.forall_mem_cons.mpr ⟨first.1, ih ps List.suffix_rfl⟩
    | char c =>
      rw [Piece.text, List.singleton_append]
      have harmless : spoils keep (c :: write ps) = false := by
        by_cases angle : c = '<'
        · subst angle
          exact apart.1 rfl
        · exact spoils_of_ne keep angle _
      rw [spoils, Bool.or_eq_false_iff, Option.isSome_eq_false_iff, Option.isNone_iff_eq_none] at harmless
      cases found : tag? (c :: write ps) with
      | none =>
        rw [Clean, pieces_of_char harmless.1 found]
        exact List.forall_mem_cons.mpr ⟨rfl, ih ps List.suffix_rfl⟩
      | some tag =>
        have kept : keep (Text.lower tag.name) = true := by simpa [found] using harmless.2
        have no_end : c ≠ '>' := by
          rintro rfl
          cases found
        have reached := (tag?_eq_some found).1
        rw [throughAngle?, if_neg no_end] at reached
        obtain ⟨⟨front, after⟩, reached, same⟩ := Option.map_eq_some_iff.mp reached
        obtain ⟨qs, suffix, rfl⟩ := exists_suffix_of_throughAngle? others reached
        rw [Clean, pieces_of_tag found, ← (Prod.mk.inj same).2]
        exact List.forall_mem_cons.mpr ⟨kept, ih qs suffix⟩

/-- Where nothing goes together, what is left of a text is clean. -/
theorem clean_of_apart {s : List Char} (apart : Apart keep (keptPieces keep s)) :
    Clean keep (stripTagsExcept keep s) := by
  rw [stripTagsExcept_eq]
  exact clean_write (lasting_keptPieces keep s) apart _ List.suffix_rfl

end RecordRules.Markup
