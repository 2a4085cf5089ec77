/-
Lower case settles a text.

* `CodeTable.mem_of_floor?`, `CodeMap.mem_images`: what a map of code points
  answers comes from one of its entries;
* `lowerMap_settles`: the images of the lower-case map are not moved again, and
  none of them is blank or comes before `a`;
* `lower_lower`: the lower case of a text in lower case is the text itself,
  final sigmas included;
* `head?_lower`, `getLast?_lower`: a text in lower case begins and ends as the
  text did, or with a settled character;
* `StartsOutside.lower`, `EndsOutside.lower`: lower case brings nothing to the
  ends that no settled character is.
-/
import RecordRules.Proofs.Text.Trimming
import RecordRules.Text.Case

namespace RecordRules

/-! ### Maps of code points -/

/-- The binary search answers with an entry of the table whose key is at most
the code point, or with the answer it started from. -/
lemma CodeTable.mem_of_floorFrom? {α : Type} {table : CodeTable α} {n lo hi : Nat}
    {best : Option (Nat × α)} {entry : Nat × α}
    (h : table.floorFrom? n lo hi best = some entry) :
    best = some entry ∨ entry ∈ table.toList ∧ entry.1 ≤ n := by
  fun_induction CodeTable.floorFrom? table n lo hi best with
  | case1 => exact Or.inl h
  | case2 lo hi best _ mid found probe le ih =>
    rcases ih h with start | inside
    · cases start
      exact Or.inr ⟨Array.mem_toList_iff.mpr (Array.mem_of_getElem? probe), le⟩
    · exact Or.inr inside
  | case3 lo hi best _ mid found probe gt ih => exact ih h
  | case4 => exact Or.inl h

lemma CodeTable.mem_of_floor? {α : Type} {table : CodeTable α} {n : Nat} {entry : Nat × α}
    (h : table.floor? n = some entry) : entry ∈ table.toList ∧ entry.1 ≤ n := by
  rcases CodeTable.mem_of_floorFrom? h with start | inside
  · cases start
  · exact inside

/-- The code points that an entry moves to. -/
def CodeShift.images (first : Nat) (shift : CodeShift) : List Nat :=
  ((List.range (shift.last + 1 - first)).filter fun i => i % shift.step = 0).map (shift.target + ·)

/-- The code points that a map moves to. -/
def CodeMap.images (map : CodeMap) : List Nat :=
  map.table.toList.flatMap fun (first, shift) => shift.images first

lemma CodeMap.mem_images {map : CodeMap} {n m : Nat} (h : map.image? n = some m) :
    m ∈ map.images := by
  rw [CodeMap.image?] at h
  split at h
  · next first shift found =>
    obtain ⟨entry, le⟩ := CodeTable.mem_of_floor? found
    split at h
    · next inside =>
      cases h
      refine List.mem_flatMap.mpr ⟨(first, shift), entry, ?_⟩
      refine List.mem_map.mpr ⟨n - first, ?_, rfl⟩
      simp only [List.mem_filter, List.mem_range, decide_eq_true_eq]
      simp only at le
      exact ⟨by omega, inside.2⟩
    · cases h
  · cases h

namespace Text

/-! ### Characters -/

/-- A character that lower case leaves alone, in every place, and that is no
white space and no sign before `a`. -/
structure Settled (c : Char) : Prop where
  lowerChar_eq : lowerChar c = [c]
  ne_sigma : c ≠ 'Σ'
  a_le : 'a'.toNat ≤ c.toNat
  not_blank : isBlank c = false

instance (c : Char) : Decidable (Settled c) :=
  decidable_of_iff (lowerChar c = [c] ∧ c ≠ 'Σ' ∧ 'a'.toNat ≤ c.toNat ∧ isBlank c = false)
    ⟨fun h => ⟨h.1, h.2.1, h.2.2.1, h.2.2.2⟩, fun h => ⟨h.1, h.2, h.3, h.4⟩⟩

/-- The characters that the rules for `İ` and for sigma bring in: the dot above
and the two small sigmas. -/
def specialImages : List Nat := [0x307, 0x3C2, 0x3C3]

/-- The check behind `Settled` for the code points that a map moves to, and for
the special ones. -/
def settles (map : CodeMap) : Bool :=
  (specialImages ++ map.images).all fun n =>
    (map.image? n).isNone && decide n.isValidChar && n != 'İ'.toNat && n != 'Σ'.toNat &&
      decide ('a'.toNat ≤ n) && !isBlank (Char.ofNat n)

/-- Reading a table one line at a time, for lines that are given by their
characters. -/
lemma tableWords_cons (line : List Char) (lines : List String) :
    tableWords (String.ofList line :: lines) =
      (splitChars ' ' line).filter (· ≠ []) ++ tableWords lines := by
  simp [tableWords]

/-- The lower-case map moves to code points that it does not move again. -/
lemma lowerMap_settles : settles lowerMap = true := by
  rw [lowerMap, CodeMap.ofLines]
  -- the lines become lists of characters, which the kernel reads much faster
  repeat rw [tableWords_cons]
  decide +kernel

lemma toNat_ofNat {n : Nat} (h : n.isValidChar) : (Char.ofNat n).toNat = n := by
  rw [Char.ofNat, dif_pos h]
  rfl

lemma settled_ofNat {n : Nat} (h : n ∈ specialImages ++ lowerMap.images) :
    Settled (Char.ofNat n) := by
  have checked := List.all_eq_true.mp lowerMap_settles n h
  simp only [Bool.and_eq_true, Option.isNone_iff_eq_none, decide_eq_true_eq, bne_iff_ne, ne_eq,
    Bool.not_eq_true'] at checked
  obtain ⟨⟨⟨⟨⟨unmoved, valid⟩, not_dotted⟩, not_sigma⟩, a_le⟩, not_blank⟩ := checked
  have code := toNat_ofNat valid
  refine ⟨?_, fun eq => not_sigma (by rw [← code, eq]), by rw [code]; exact a_le, not_blank⟩
  rw [lowerChar]
  split
  · next ascii =>
    -- from `a` on ASCII has no capitals
    have all : ∀ k < 128, 'a'.toNat ≤ k → (Char.ofNat k).toLower = Char.ofNat k := by decide
    rw [all n (by omega) a_le]
  · rw [if_neg (fun eq => not_dotted (by rw [← code, eq])), code, unmoved]

/-- The lower case of a character is the character itself or settled. -/
lemma lowerChar_cases (c : Char) : lowerChar c = [c] ∨ ∀ d ∈ lowerChar c, Settled d := by
  by_cases ascii : c.toNat < 128
  · have all : ∀ k < 128, (Char.ofNat k).toLower = Char.ofNat k ∨ Settled (Char.ofNat k).toLower := by
      decide
    rw [lowerChar, if_pos ascii, List.cons.injEq, List.forall_mem_singleton]
    simpa using all c.toNat ascii
  · rw [lowerChar, if_neg ascii]
    split
    · right
      intro d hd
      simp only [List.mem_cons, List.not_mem_nil, or_false] at hd
      rcases hd with rfl | rfl
      · decide
      · exact settled_ofNat (List.mem_append_left _ List.mem_cons_self)
    · split
      · next n moved =>
        right
        intro d hd
        rw [List.mem_singleton] at hd
        rw [hd]
        exact settled_ofNat (List.mem_append_right _ (CodeMap.mem_images moved))
      · exact Or.inl rfl

lemma lowerChar_ne_nil (c : Char) : lowerChar c ≠ [] := by
  rw [lowerChar]
  split
  · exact List.cons_ne_nil _ _
  · split
    · exact List.cons_ne_nil _ _
    · split <;> exact List.cons_ne_nil _ _

/-- What a character becomes in a text, by what stands around it. -/
def lowerPiece (before : List Char) (c : Char) (rest : List Char) : List Char :=
  if c = 'Σ' then [if meetsCased before && !meetsCased rest then 'ς' else 'σ'] else lowerChar c

lemma lowerAfter_cons (before : List Char) (c : Char) (rest : List Char) :
    lowerAfter before (c :: rest) = lowerPiece before c rest ++ lowerAfter (c :: before) rest := by
  rw [lowerAfter, lowerPiece]
  split <;> rfl

lemma lowerPiece_ne_nil (before : List Char) (c : Char) (rest : List Char) :
    lowerPiece before c rest ≠ [] := by
  rw [lowerPiece]
  split
  · exact List.cons_ne_nil _ _
  · exact lowerChar_ne_nil c

/-- A character of a text stays, or what comes in its place is settled. -/
lemma lowerPiece_cases (before : List Char) (c : Char) (rest : List Char) :
    (lowerPiece before c rest = [c] ∧ lowerChar c = [c] ∧ c ≠ 'Σ') ∨
      ∀ d ∈ lowerPiece before c rest, Settled d := by
  rw [lowerPiece]
  split
  · right
    intro d hd
    rw [List.mem_singleton] at hd
    subst hd
    split
    · exact settled_ofNat (n := 0x3C2) (List.mem_append_left _ (by decide))
    · exact settled_ofNat (n := 0x3C3) (List.mem_append_left _ (by decide))
  · next not_sigma =>
    rcases lowerChar_cases c with same | settled
    · exact Or.inl ⟨same, same, not_sigma⟩
    · exact Or.inr settled

/-! ### Texts -/

lemma lowerAfter_ne_nil {s : List Char} (before : List Char) (h : s ≠ []) :
    lowerAfter before s ≠ [] := by
  cases s with
  | nil => exact absurd rfl h
  | cons c rest =>
    rw [lowerAfter_cons]
    exact List.append_ne_nil_of_left_ne_nil (lowerPiece_ne_nil before c rest) _

/-- Lower case leaves every character of a text in lower case alone. -/
lemma of_mem_lowerAfter {s before : List Char} {d : Char} (h : d ∈ lowerAfter before s) :
    lowerChar d = [d] ∧ d ≠ 'Σ' := by
  induction s generalizing before with
  | nil => cases h
  | cons c rest ih =>
    rw [lowerAfter_cons] at h
    rcases List.mem_append.mp h with piece | later
    · rcases lowerPiece_cases before c rest with ⟨same, fixed⟩ | settled
      · rw [same, List.mem_singleton] at piece
        rw [piece]
        exact fixed
      · exact ⟨(settled d piece).lowerChar_eq, (settled d piece).ne_sigma⟩
    · exact ih later

lemma lowerAfter_eq_self {s : List Char} (before : List Char)
    (h : ∀ c ∈ s, lowerChar c = [c] ∧ c ≠ 'Σ') : lowerAfter before s = s := by
  induction s generalizing before with
  | nil => rfl
  | cons c rest ih =>
    obtain ⟨same, not_sigma⟩ := h c List.mem_cons_self
    rw [lowerAfter_cons, lowerPiece, if_neg not_sigma, same,
      ih (c :: before) fun d hd => h d (List.mem_cons_of_mem c hd)]
    rfl

/-- A text in lower case is its own lower case. -/
theorem lower_lower (s : List Char) : lower (lower s) = lower s :=
  lowerAfter_eq_self [] fun _ hd => of_mem_lowerAfter hd

theorem lowerString_lowerString (s : String) : lowerString (lowerString s) = lowerString s := by
  rw [lowerString, lowerString, String.toList_ofList, lower_lower]

lemma lower_ne_nil {s : List Char} (h : s ≠ []) : lower s ≠ [] := lowerAfter_ne_nil [] h

/-- A text in lower case begins as the text did, or with a settled character. -/
lemma head?_lower (s : List Char) :
    (lower s).head? = s.head? ∨ ∃ d, (lower s).head? = some d ∧ Settled d := by
  cases s with
  | nil => exact Or.inl rfl
  | cons c rest =>
    rw [lower, lowerAfter_cons]
    rcases lowerPiece_cases [] c rest with ⟨same, -⟩ | settled
    · rw [same]
      exact Or.inl rfl
    · obtain ⟨d, more, piece⟩ := List.exists_cons_of_ne_nil (lowerPiece_ne_nil [] c rest)
      rw [piece] at settled ⊢
      exact Or.inr ⟨d, rfl, settled d List.mem_cons_self⟩

lemma getLast?_lowerAfter (before s : List Char) :
    (lowerAfter before s).getLast? = s.getLast? ∨
      ∃ d, (lowerAfter before s).getLast? = some d ∧ Settled d := by
  induction s generalizing before with
  | nil => exact Or.inl rfl
  | cons c rest ih =>
    rw [lowerAfter_cons, List.getLast?_append]
    by_cases last : rest = []
    · subst last
      rcases lowerPiece_cases before c [] with ⟨same, -⟩ | settled
      · rw [same]
        exact Or.inl rfl
      · right
        have some_last := List.getLast?_eq_some_getLast (lowerPiece_ne_nil before c [])
        rw [some_last]
        exact ⟨_, rfl, settled _ (List.getLast_mem _)⟩
    · have more := List.getLast?_eq_some_getLast (lowerAfter_ne_nil (c :: before) last)
      have same : (c :: rest).getLast? = rest.getLast? := by
        rw [List.getLast?_cons, List.getLast?_eq_some_getLast last]
        rfl
      rw [same]
      rcases ih (c :: before) with kept | ⟨d, found, settled⟩
      · left
        rw [kept, List.getLast?_eq_some_getLast last]
        rfl
      · right
        rw [found]
        exact ⟨d, rfl, settled⟩

/-- A text in lower case ends as the text did, or with a settled character. -/
lemma getLast?_lower (s : List Char) :
    (lower s).getLast? = s.getLast? ∨ ∃ d, (lower s).getLast? = some d ∧ Settled d :=
  getLast?_lowerAfter [] s

lemma StartsOutside.lower {p : Char → Bool} {s : List Char} (h : StartsOutside p s)
    (settled : ∀ c, Settled c → p c = false) : StartsOutside p (lower s) := by
  intro c first
  rcases head?_lower s with same | ⟨d, found, ok⟩
  · exact h c (by rw [← same, first])
  · rw [found, Option.some.injEq] at first
    rw [← first]
    exact settled d ok

lemma EndsOutside.lower {p : Char → Bool} {s : List Char} (h : EndsOutside p s)
    (settled : ∀ c, Settled c → p c = false) : EndsOutside p (lower s) := by
  intro c last
  rcases getLast?_lower s with same | ⟨d, found, ok⟩
  · exact h c (by rw [← same, last])
  · rw [found, Option.some.injEq] at last
    rw [← last]
    exact settled d ok

end Text

end RecordRules
