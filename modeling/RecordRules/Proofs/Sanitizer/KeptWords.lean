/-
What is left of a text when its noise words are removed.

A removal takes one word out of the words of a text and leaves the others as they are, in
their order. The padded text has a space before and behind every word, so that a word for
which no place is found is not among them.

* `Collapsed`, `collapsed_collapseBlanks`: what becomes of a text without other white space
  than spaces when its blanks are collapsed; so its padded form is singly spaced and has the
  same words (`singlySpaced_padded`);
* `Removes.sublist`, `Removes.filter_spaceWords`: what a removal leaves of the parts and of
  the words;
* `RemovesAll.spaceWords_eq`: the words that are left by all removals;
* `strip_eq_of_kept`: what is left of a text whose characters have as many bytes in lower
  case;
* `noiseWords_keeps`: this for the sanitizer on ASCII texts.
-/
import RecordRules.Proofs.Sanitizer.NoiseWords
import RecordRules.Proofs.Text.SpacedWords

namespace RecordRules.NoiseWord

open Text

variable {word w s t u : List Char} {c d : Char} {list : List String}

/-! ### Padded texts -/

/-- A text has the words of another one, is singly spaced, and begins with a space iff the
other one does. -/
def Collapsed (s t : List Char) : Prop :=
  ∃ m, t.splitOn ' ' =
    List.replicate (if s.head? = some ' ' then 1 else 0) [] ++ spaceWords s ++ List.replicate m []

/-- One space stands for all those before the first word. -/
lemma Collapsed.cons_space (h : Collapsed s t) (starts : s.head? ≠ some ' ') (same : spaceWords u = spaceWords s) :
    Collapsed (' ' :: u) (' ' :: t) := by
  obtain ⟨m, divided⟩ := h
  refine ⟨m, ?_⟩
  rw [splitOn_cons_self, divided, if_neg starts, spaceWords_cons_space, same]
  rfl

/-- A character goes to the first word, or is one before a space. -/
lemma Collapsed.cons (h : Collapsed (d :: s) t) (other : c ≠ ' ') : Collapsed (c :: d :: s) (c :: t) := by
  obtain ⟨m, divided⟩ := h
  have starts : (c :: d :: s).head? ≠ some ' ' := fun same => other (Option.some.inj same)
  refine ⟨m, ?_⟩
  rw [splitOn_cons_of_ne other, divided, if_neg starts]
  by_cases space : d = ' '
  · rw [space, spaceWords_cons_cons_space other, spaceWords_cons_space]
    rfl
  · obtain ⟨w, ws, words, longer⟩ := exists_spaceWords_cons space s
    have no_space : (d :: s).head? ≠ some ' ' := fun same => space (Option.some.inj same)
    rw [if_neg no_space, words, longer c other]
    rfl

lemma collapsed_collapseBlanks (blanks : ∀ c ∈ s, isBlank c = true → c = ' ') :
    Collapsed s (collapseBlanks s) := by
  fun_induction collapseBlanks s with
  | case1 => exact ⟨1, rfl⟩
  | case2 c =>
    by_cases space : c = ' '
    · rw [space]
      exact ⟨1, rfl⟩
    · refine ⟨0, ?_⟩
      rw [spaceWords, splitOn_cons_of_ne space]
      simp [space]
  | case3 c d rest both ih =>
    rw [Bool.and_eq_true] at both
    obtain ⟨first, others⟩ := List.forall_mem_cons.mp blanks
    have starts : ((d :: rest).dropWhile isBlank).head? ≠ some ' ' := fun same => by
      have outside := dropWhile_startsOutside isBlank (d :: rest) ' ' same
      cases outside
    rw [first both.1]
    refine (ih fun e mem => ?_).cons_space starts (spaceWords_dropWhile_isBlank others).symm
    exact others e ((List.dropWhile_sublist isBlank).subset mem)
  | case4 c d rest one ih =>
    obtain ⟨-, others⟩ := List.forall_mem_cons.mp blanks
    by_cases space : c = ' '
    · have starts : (d :: rest).head? ≠ some ' ' := fun same => by
        rw [space, Option.some.inj same] at one
        exact one rfl
      rw [space]
      exact (ih others).cons_space starts rfl
    · exact (ih others).cons space

lemma mem_collapseBlanks (mem : c ∈ collapseBlanks s) : c ∈ s ∨ c = ' ' := by
  fun_induction collapseBlanks s with
  | case1 => cases mem
  | case2 d => exact .inl mem
  | case3 d e rest _ ih =>
    rcases List.mem_cons.mp mem with rfl | later
    · exact .inr rfl
    · refine (ih later).imp_left fun inside => List.mem_cons_of_mem d ?_
      exact (List.dropWhile_sublist isBlank).subset inside
  | case4 d e rest _ ih =>
    rcases List.mem_cons.mp mem with rfl | later
    · exact .inl List.mem_cons_self
    · exact (ih later).imp_left (List.mem_cons_of_mem d)

lemma mem_padded (mem : c ∈ padded s) : c ∈ s ∨ c = ' ' := by
  rw [padded, List.mem_cons, List.mem_append, List.mem_singleton] at mem
  rcases mem with space | inside | space
  · exact .inr space
  · exact mem_collapseBlanks inside
  · exact .inr space

/-- The padded form of a text is singly spaced and has the same words. -/
lemma singlySpaced_padded (blanks : ∀ c ∈ s, isBlank c = true → c = ' ') :
    SinglySpaced (padded s) ∧ spaceWords (padded s) = spaceWords s := by
  obtain ⟨m, divided⟩ := collapsed_collapseBlanks blanks
  obtain ⟨single, same⟩ := singlySpaced_of_eq (fun w mem => (mem_spaceWords.mp mem).2) divided
  have no_words : spaceWords [] = [] := rfl
  refine ⟨single.concat_space.cons_space, ?_⟩
  rw [padded, spaceWords_cons_space, spaceWords_append_space, same, no_words, List.append_nil]

/-! ### One word -/

/-- A text begins and ends with a space: its first part and its last are empty. -/
def Flanked (s : List Char) : Prop :=
  (s.splitOn ' ').head? = some [] ∧ (s.splitOn ' ').getLast? = some []

lemma flanked_padded (s : List Char) : Flanked (padded s) := by
  have divided : (padded s).splitOn ' ' = [] :: ((collapseBlanks s).splitOn ' ' ++ [[]]) := by
    rw [padded, ← List.nil_append (' ' :: _), List.splitOn_append_cons_self, List.splitOn_append_cons_self]
    rfl
  rw [Flanked, divided]
  exact ⟨rfl, List.getLast?_concat (l := [] :: _)⟩

lemma splitOn_cut (a w b : List Char) :
    (a ++ ' ' :: (w ++ ' ' :: b)).splitOn ' ' = a.splitOn ' ' ++ (w.splitOn ' ' ++ b.splitOn ' ') := by
  rw [List.splitOn_append_cons_self, List.splitOn_append_cons_self]

/-- Removals leave parts out and change none. -/
lemma Removes.sublist (removes : Removes word s t) : (t.splitOn ' ').Sublist (s.splitOn ' ') := by
  induction removes with
  | done => exact List.Sublist.refl _
  | @splice a w b t _ _ _ _ ih =>
    rw [List.splitOn_append_cons_self] at ih
    rw [splitOn_cut]
    exact ih.trans (List.Sublist.append_left (List.sublist_append_right _ _) _)

lemma Removes.flanked (removes : Removes word s t) (flanked : Flanked s) : Flanked t := by
  induction removes with
  | done => exact flanked
  | @splice a w b t _ _ _ _ ih =>
    apply ih
    rw [Flanked, splitOn_cut] at flanked
    rw [Flanked, List.splitOn_append_cons_self]
    -- the first part is one of the front, and the last part one of the back
    have some_front := List.splitOn_ne_nil ' ' a
    have some_back := List.splitOn_ne_nil ' ' b
    rw [List.head?_append_of_ne_nil _ some_front] at flanked ⊢
    rw [List.getLast?_append_of_ne_nil _ (List.append_ne_nil_of_right_ne_nil _ some_back),
      List.getLast?_append_of_ne_nil _ some_back] at flanked
    rwa [List.getLast?_append_of_ne_nil _ some_back]

/-- Removals of a word leave all other words. -/
lemma Removes.filter_spaceWords (removes : Removes word s t) (outside : ' ' ∉ word) (keep : List Char → Bool)
    (drops : ∀ w, lower w = word → keep w = false) :
    (spaceWords t).filter keep = (spaceWords s).filter keep := by
  induction removes with
  | done => rfl
  | @splice a w b t cased _ _ _ ih =>
    have single : w.splitOn ' ' = [w] := List.splitOn_eq_singleton (space_not_mem outside cased)
    have dropped : (spaceWords w).filter keep = [] := by
      rw [List.filter_eq_nil_iff]
      intro v mem
      have part := (mem_spaceWords.mp mem).1
      rw [single, List.mem_singleton] at part
      rw [part, drops w cased]
      decide
    rw [ih, spaceWords_append_space, spaceWords_append_space, spaceWords_append_space, List.filter_append,
      List.filter_append, List.filter_append, dropped, List.nil_append]

/-- Removals of a word leave none in the text. -/
lemma Removes.lower_ne (removes : Removes word s t) (grown : growth s = 0) (flanked : Flanked s) :
    ∀ w ∈ spaceWords t, lower w ≠ word := by
  intro w mem cased
  obtain ⟨starts, ends⟩ := removes.flanked flanked
  obtain ⟨a, b, text⟩ := exists_of_mem_spaceWords starts ends mem
  exact place_ne_none (removes.growth_eq.trans grown) text cased removes.place_eq_none

/-- The words that are left by the removals of a word. -/
lemma Removes.spaceWords_eq (removes : Removes word s t) (outside : ' ' ∉ word) (grown : growth s = 0)
    (flanked : Flanked s) : spaceWords t = (spaceWords s).filter (lower · ≠ word) := by
  have kept := removes.filter_spaceWords outside (fun w => lower w ≠ word) fun w cased => by simp [cased]
  rw [← kept, List.filter_eq_self.mpr]
  simpa using removes.lower_ne grown flanked

/-! ### All words -/

lemma RemovesAll.sublist (removes : RemovesAll list s t) : (t.splitOn ' ').Sublist (s.splitOn ' ') := by
  induction removes with
  | nil => exact List.Sublist.refl _
  | cons first _ ih => exact ih.trans first.sublist

/-- **The words that are left by all removals** are those that are not among the removed
ones, without regard to case. -/
lemma RemovesAll.spaceWords_eq (removes : RemovesAll list s t) (outside : ∀ word ∈ list, ' ' ∉ word.toList)
    (grown : growth s = 0) (flanked : Flanked s) :
    spaceWords t = (spaceWords s).filter fun w => String.ofList (lower w) ∉ list := by
  induction removes with
  | nil => simp
  | @cons word list s t u first more ih =>
    obtain ⟨first_outside, outside⟩ := List.forall_mem_cons.mp outside
    rw [ih outside (first.growth_eq.trans grown) (first.flanked flanked),
      first.spaceWords_eq first_outside grown flanked, List.filter_filter]
    refine List.filter_congr fun w _ => ?_
    have same : String.ofList (lower w) = word ↔ lower w = word.toList :=
      ⟨fun h => by rw [← h, String.toList_ofList], fun h => by rw [h, String.ofList_toList]⟩
    simp [same, Bool.and_comm]

/-- **What is left of a text**: its words that are no noise words, joined by single
spaces. -/
theorem strip_eq_of_kept (kept : ∀ c ∈ s, c ≠ 'Σ' → byteLength (lowerChar c) = c.utf8Size)
    (blanks : ∀ c ∈ s, isBlank c = true → c = ' ') :
    (∃ t, RemovesAll words (padded s) t) ∧
      strip s = .ok ([' '].intercalate ((spaceWords s).filter fun w => String.ofList (lower w) ∉ words)) := by
  have kept' : ∀ c ∈ padded s, c ≠ 'Σ' → byteLength (lowerChar c) = c.utf8Size := by
    intro c mem other
    rcases mem_padded mem with inside | rfl
    · exact kept c inside other
    · exact byteLength_lowerChar_of_ascii (by decide)
  have grown : growth (padded s) = 0 := growth_eq_zero_iff.mpr (byteLength_lowerAfter [] kept')
  obtain ⟨t, removes⟩ := (exists_removesAll_iff space_not_mem_words).mpr fun _ word _ =>
    not_misplaced_iff.mpr fun a w b text _ => kept_of_chars text kept'
  obtain ⟨single, same⟩ := singlySpaced_padded blanks
  have left := removes.spaceWords_eq space_not_mem_words grown (flanked_padded s)
  rw [same] at left
  have no_blank : ∀ w ∈ spaceWords t, ∀ c ∈ w, isBlank c = false := by
    intro w mem
    rw [left] at mem
    exact not_isBlank_of_mem_spaceWords blanks w (List.mem_filter.mp mem).1
  refine ⟨⟨t, removes⟩, ?_⟩
  rw [strip_of_removesAll removes, (single.of_sublist removes.sublist).trim_eq no_blank, left]

/-- **What is left of an ASCII text whose only white space is the space.** The removals
come to an end, and leave exactly the words between its spaces that are, without regard to
case, no noise words: in their order, in their letter case and with single spaces between
them. -/
theorem noiseWords_keeps (text : String) (arguments : List String) (ascii : ∀ c ∈ text.toList, c.toNat < 128)
    (blanks : ∀ c ∈ text.toList, isBlank c = true → c = ' ') :
    (∃ t, RemovesAll words (padded text.toList) t) ∧
      Sanitizer.noiseWords.apply (.string text) arguments =
        .ok (.string (String.ofList ([' '].intercalate
          ((spaceWords text.toList).filter fun w => String.ofList (lower w) ∉ words)))) := by
  obtain ⟨ends, stripped⟩ := strip_eq_of_kept
    (fun c mem _ => byteLength_lowerChar_of_ascii (ascii c mem)) blanks
  refine ⟨ends, ?_⟩
  rw [Sanitizer.apply, stripped]
  rfl

/-- Noise words at both ends, next to each other, in capitals, and as a part of a word. -/
theorem noiseWords_keeps_tea :
    let text := "  The  THE tea and then-some  Cup it's "
    (∀ c ∈ text.toList, c.toNat < 128) ∧ (∀ c ∈ text.toList, isBlank c = true → c = ' ') ∧
      Sanitizer.noiseWords.apply (.string text) [] = .ok (.string "tea then-some Cup") := by
  intro text
  have ascii : ∀ c ∈ text.toList, c.toNat < 128 :=
    List.forall_iff_forall_mem.mp (by decide)
  have blanks : ∀ c ∈ text.toList, isBlank c = true → c = ' ' :=
    List.forall_iff_forall_mem.mp (by decide)
  have left : [' '].intercalate ((spaceWords text.toList).filter fun w => String.ofList (lower w) ∉ words) =
      "tea then-some Cup".toList := by decide +kernel
  refine ⟨ascii, blanks, ?_⟩
  rw [(noiseWords_keeps text [] ascii blanks).2, left]
  rfl

end RecordRules.NoiseWord
