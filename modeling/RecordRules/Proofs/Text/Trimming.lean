/-
What trimming leaves at the ends of a text.

* `StartsOutside`, `EndsOutside`: the first, or the last, character of a text
  is not in a class;
* `trimBoth_startsOutside`, `trimBoth_endsOutside`: nothing of the class is
  left at the ends;
* `trimBoth_eq_self`, `trimBoth_eq_self_of_forall`: what trimming leaves as it is;
* `StartsOutside.takeWhile_append`, `StartsOutside.dropWhile_append`: a text that
  is cut where a class ends;
* `dropWhile_dropWhile`, `trimBoth_dropWhile`: a smaller class dropped before
  changes nothing;
* `dropWhile_congr`, `takeWhile_congr`, `trimBoth_congr`: only the characters of
  the text matter.
-/
import Mathlib.Data.List.DropRight
import RecordRules.Text.Blank

namespace RecordRules.Text

variable {p q : Char → Bool} {s t : List Char}

/-- The text is empty or begins with a character that is not in `p`. -/
def StartsOutside (p : Char → Bool) (s : List Char) : Prop := ∀ c, s.head? = some c → p c = false

/-- The text is empty or ends with a character that is not in `p`. -/
def EndsOutside (p : Char → Bool) (s : List Char) : Prop := ∀ c, s.getLast? = some c → p c = false

instance (p : Char → Bool) (s : List Char) : Decidable (StartsOutside p s) :=
  decidable_of_iff (s.head?.all fun c => !p c) (by simp [StartsOutside, Option.all_eq_true])

instance (p : Char → Bool) (s : List Char) : Decidable (EndsOutside p s) :=
  decidable_of_iff (s.getLast?.all fun c => !p c) (by simp [EndsOutside, Option.all_eq_true])

lemma StartsOutside.mono (h : StartsOutside p s) (sub : ∀ c, q c = true → p c = true) :
    StartsOutside q s := by
  intro c first
  by_contra inside
  have := h c first
  rw [sub c (by simpa using inside)] at this
  cases this

lemma EndsOutside.mono (h : EndsOutside p s) (sub : ∀ c, q c = true → p c = true) :
    EndsOutside q s := by
  intro c last
  by_contra inside
  have := h c last
  rw [sub c (by simpa using inside)] at this
  cases this

/-! ### One end -/

lemma dropWhile_startsOutside (p : Char → Bool) (s : List Char) :
    StartsOutside p (s.dropWhile p) := by
  intro c first
  have stop := List.head?_dropWhile_not p s
  rw [first] at stop
  exact stop

/-- Dropping characters of a smaller class first changes nothing. -/
lemma dropWhile_dropWhile (sub : ∀ c, q c = true → p c = true) (s : List Char) :
    (s.dropWhile q).dropWhile p = s.dropWhile p := by
  induction s with
  | nil => rfl
  | cons c rest ih =>
    by_cases inside : q c = true
    · rw [List.dropWhile_cons_of_pos inside, List.dropWhile_cons_of_pos (sub c inside), ih]
    · rw [List.dropWhile_cons_of_neg inside]

/-- Only what the class says about the characters of the text matters. -/
lemma dropWhile_congr (same : ∀ c ∈ s, p c = q c) : s.dropWhile p = s.dropWhile q := by
  induction s with
  | nil => rfl
  | cons c rest ih =>
    obtain ⟨first, rest_same⟩ := List.forall_mem_cons.mp same
    rw [List.dropWhile_cons, List.dropWhile_cons, first, ih rest_same]

lemma takeWhile_congr (same : ∀ c ∈ s, p c = q c) : s.takeWhile p = s.takeWhile q := by
  induction s with
  | nil => rfl
  | cons c rest ih =>
    obtain ⟨first, rest_same⟩ := List.forall_mem_cons.mp same
    rw [List.takeWhile_cons, List.takeWhile_cons, first, ih rest_same]

lemma StartsOutside.dropWhile_eq (h : StartsOutside p s) : s.dropWhile p = s := by
  cases s with
  | nil => rfl
  | cons c rest => rw [List.dropWhile_cons, if_neg (by simp [h c rfl])]

/-- Characters of a class, with a text behind them that begins outside, are all that is
taken. -/
lemma StartsOutside.takeWhile_append (h : StartsOutside p t) (all : ∀ c ∈ s, p c = true) :
    (s ++ t).takeWhile p = s := by
  cases t with
  | nil => rw [List.takeWhile_append_of_pos all, List.takeWhile_nil, List.append_nil]
  | cons c rest =>
    rw [List.takeWhile_append_of_pos all, List.takeWhile_cons_of_neg (by simp [h c rfl]), List.append_nil]

lemma StartsOutside.dropWhile_append (h : StartsOutside p t) (all : ∀ c ∈ s, p c = true) :
    (s ++ t).dropWhile p = t := by
  rw [List.dropWhile_append_of_pos all, h.dropWhile_eq]

lemma dropRightWhile_endsOutside (p : Char → Bool) (s : List Char) :
    EndsOutside p (dropRightWhile p s) := by
  intro c last
  have found : (s.reverse.dropWhile p).head? = some c := by
    rw [← List.getLast?_reverse]
    exact last
  exact dropWhile_startsOutside p s.reverse c found

lemma EndsOutside.dropRightWhile_eq (h : EndsOutside p s) : dropRightWhile p s = s := by
  have reversed : StartsOutside p s.reverse := fun c first => h c (by rw [← List.head?_reverse, first])
  rw [dropRightWhile, reversed.dropWhile_eq, List.reverse_reverse]

/-- Characters of the class after a text fall away with it. -/
lemma dropRightWhile_append_of_all (h : t.all p = true) :
    dropRightWhile p (s ++ t) = dropRightWhile p s := by
  rw [dropRightWhile, List.reverse_append, List.dropWhile_append_of_pos]
  · rfl
  · intro c inside
    exact List.all_eq_true.mp h c (List.mem_reverse.mp inside)

/-- A text is what is left of it at the right end and characters of the class. -/
lemma exists_eq_dropRightWhile_append (p : Char → Bool) (s : List Char) :
    ∃ t, t.all p = true ∧ s = dropRightWhile p s ++ t := by
  refine ⟨s.rtakeWhile p, ?_, List.rdropWhile_append_rtakeWhile.symm⟩
  rw [List.all_eq_true]
  exact fun c inside => List.mem_rtakeWhile_imp inside

lemma StartsOutside.dropRightWhile (h : StartsOutside p s) (q : Char → Bool) :
    StartsOutside p (dropRightWhile q s) := by
  intro c first
  obtain ⟨t, -, parts⟩ := exists_eq_dropRightWhile_append q s
  apply h c
  rw [parts, List.head?_append, first]
  rfl

/-! ### Both ends -/

lemma trimBoth_startsOutside (p : Char → Bool) (s : List Char) : StartsOutside p (trimBoth p s) :=
  (dropWhile_startsOutside p s).dropRightWhile p

lemma trimBoth_endsOutside (p : Char → Bool) (s : List Char) : EndsOutside p (trimBoth p s) :=
  dropRightWhile_endsOutside p _

lemma trimBoth_eq_self (starts : StartsOutside p s) (ends : EndsOutside p s) :
    trimBoth p s = s := by
  rw [trimBoth, starts.dropWhile_eq, ends.dropRightWhile_eq]

/-- A text without characters of the class stays. -/
lemma trimBoth_eq_self_of_forall (h : ∀ c ∈ s, p c = false) : trimBoth p s = s :=
  trimBoth_eq_self (fun c first => h c (List.mem_of_head? first)) fun c last =>
    h c (List.mem_of_getLast? last)

lemma trimBoth_trimBoth (p : Char → Bool) (s : List Char) :
    trimBoth p (trimBoth p s) = trimBoth p s :=
  trimBoth_eq_self (trimBoth_startsOutside p s) (trimBoth_endsOutside p s)

lemma trimBoth_dropWhile (sub : ∀ c, q c = true → p c = true) (s : List Char) :
    trimBoth p (s.dropWhile q) = trimBoth p s := by
  rw [trimBoth, dropWhile_dropWhile sub, trimBoth]

lemma trimBoth_congr (same : ∀ c ∈ s, p c = q c) : trimBoth p s = trimBoth q s := by
  rw [trimBoth, trimBoth, dropRightWhile, dropRightWhile, dropWhile_congr same, dropWhile_congr]
  exact fun c mem => same c ((List.dropWhile_sublist q).subset (List.mem_reverse.mp mem))

lemma trim_trim (s : List Char) : trim (trim s) = trim s := trimBoth_trimBoth isBlank s

/-- A text that begins with something else than white space is not blank. -/
lemma trim_ne_nil (starts : StartsOutside isBlank s) (h : s ≠ []) : trim s ≠ [] := by
  obtain ⟨c, rest, rfl⟩ := List.exists_cons_of_ne_nil h
  intro blank
  have all := (isAllBlank_iff_trim (c :: rest)).mpr blank
  rw [isAllBlank, List.all_cons, starts c rfl] at all
  cases all

end RecordRules.Text
