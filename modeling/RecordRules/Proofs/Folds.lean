/-
Folds that may fail.

* `bind_eq_ok_iff`, `bind_eq_error_iff`: a step and what follows it;
* `mapM_eq_ok_iff`, `exists_mem_of_mapM_error`: the entries of a list, one by one;
* `foldlM_eq_self`: a fold that changes nothing;
* `foldlM_split`: a fold over a list and a place in it;
* `foldlM_eq_error_iff`: a fold fails at the first step that fails;
* `foldlM_mapM`: steps over a whole list, and all steps over each entry.
-/
import Mathlib.Data.List.Basic
import Mathlib.Data.List.Forall2

namespace RecordRules

variable {ε α β γ : Type}

/-! ### One step -/

lemma bind_eq_ok_iff {x : Except ε α} {f : α → Except ε β} {b : β} :
    x >>= f = .ok b ↔ ∃ a, x = .ok a ∧ f a = .ok b := by
  cases x with
  | error e => exact ⟨nofun, fun ⟨_, failed, _⟩ => nomatch failed⟩
  | ok a =>
    refine ⟨fun h => ⟨a, rfl, h⟩, ?_⟩
    rintro ⟨_, ⟨⟩, h⟩
    exact h

lemma bind_eq_error_iff {x : Except ε α} {f : α → Except ε β} {e : ε} :
    x >>= f = .error e ↔ x = .error e ∨ ∃ a, x = .ok a ∧ f a = .error e := by
  cases x with
  | error e' =>
    have failed : (Except.error e' : Except ε α) >>= f = .error e' := rfl
    rw [failed, Except.error.injEq, Except.error.injEq]
    exact ⟨.inl, fun h => h.elim id fun ⟨_, done, _⟩ => nomatch done⟩
  | ok a =>
    refine ⟨fun h => .inr ⟨a, rfl, h⟩, ?_⟩
    rintro (⟨⟨⟩⟩ | ⟨_, ⟨⟩, h⟩)
    exact h

lemma map_eq_ok_iff {x : Except ε α} {f : α → β} {b : β} :
    x.map f = .ok b ↔ ∃ a, x = .ok a ∧ f a = b := by
  cases x with
  | error e => exact ⟨nofun, fun ⟨_, failed, _⟩ => nomatch failed⟩
  | ok a =>
    refine ⟨fun h => ⟨a, rfl, Except.ok.inj h⟩, ?_⟩
    rintro ⟨_, ⟨⟩, rfl⟩
    rfl

lemma map_eq_error_iff {x : Except ε α} {f : α → β} {e : ε} :
    x.map f = .error e ↔ x = .error e := by
  cases x with
  | error e' =>
    rw [Except.map, Except.error.injEq, Except.error.injEq]
  | ok a => exact ⟨nofun, nofun⟩

lemma mapError_eq_ok_iff {δ : Type} {x : Except ε α} {f : ε → δ} {a : α} :
    x.mapError f = .ok a ↔ x = .ok a := by
  cases x with
  | error e => exact ⟨nofun, nofun⟩
  | ok a' => rw [Except.mapError, Except.ok.injEq, Except.ok.injEq]

lemma mapError_eq_error_iff {δ : Type} {x : Except ε α} {f : ε → δ} {e : δ} :
    x.mapError f = .error e ↔ ∃ e', x = .error e' ∧ f e' = e := by
  cases x with
  | error e' =>
    rw [Except.mapError, Except.error.injEq]
    refine ⟨fun h => ⟨e', rfl, h⟩, ?_⟩
    rintro ⟨_, ⟨⟩, h⟩
    exact h
  | ok a => exact ⟨nofun, fun ⟨_, failed, _⟩ => nomatch failed⟩

lemma exists_ok_of_isOk {x : Except ε α} (h : x.isOk = true) : ∃ a, x = .ok a := by
  cases x with
  | ok a => exact ⟨a, rfl⟩
  | error e => cases h

/-- Two results are the same if they have the same values and there is only one
fault. -/
lemma eq_of_ok_iff {x y : Except ε α} {e : ε} (ok : ∀ a, x = .ok a ↔ y = .ok a)
    (left : ∀ e', x = .error e' → e' = e) (right : ∀ e', y = .error e' → e' = e) : x = y := by
  cases x with
  | ok a => exact ((ok a).mp rfl).symm
  | error e₁ =>
    cases y with
    | ok a => exact (ok a).mpr rfl
    | error e₂ => rw [left e₁ rfl, right e₂ rfl]

/-! ### Lists -/

/-- A list is read iff each of its entries is. -/
lemma mapM_eq_ok_iff {f : α → Except ε β} {l : List α} {out : List β} :
    l.mapM f = .ok out ↔ List.Forall₂ (fun a b => f a = .ok b) l out := by
  induction l generalizing out with
  | nil =>
    rw [List.mapM_nil, List.forall₂_nil_left_iff]
    exact ⟨fun h => (Except.ok.inj h).symm, fun h => h ▸ rfl⟩
  | cons a l ih =>
    rw [List.mapM_cons, bind_eq_ok_iff, List.forall₂_cons_left_iff]
    constructor
    · rintro ⟨b, first, h⟩
      obtain ⟨rest, others, h⟩ := bind_eq_ok_iff.mp h
      cases h
      exact ⟨b, rest, first, ih.mp others, rfl⟩
    · rintro ⟨b, rest, first, others, rfl⟩
      exact ⟨b, first, bind_eq_ok_iff.mpr ⟨rest, ih.mpr others, rfl⟩⟩

/-- What is read of a list has an entry iff the list has one. -/
lemma isEmpty_of_mapM {f : α → Except ε β} {l : List α} {out : List β} (h : l.mapM f = .ok out) :
    out.isEmpty = l.isEmpty := by
  cases mapM_eq_ok_iff.mp h with
  | nil => rfl
  | cons => rfl

lemma exists_of_mem_mapM {f : α → Except ε β} {l : List α} {out : List β} (h : l.mapM f = .ok out) {b : β}
    (mem : b ∈ out) : ∃ a ∈ l, f a = .ok b := by
  rw [mapM_eq_ok_iff] at h
  induction h with
  | nil => cases mem
  | cons first _ ih =>
    rcases List.mem_cons.mp mem with rfl | mem
    · exact ⟨_, List.mem_cons_self, first⟩
    · obtain ⟨a, inside, read⟩ := ih mem
      exact ⟨a, List.mem_cons_of_mem _ inside, read⟩

/-- A list that cannot be read has an entry that cannot. -/
lemma exists_mem_of_mapM_error {f : α → Except ε β} {l : List α} {e : ε}
    (h : l.mapM f = .error e) : ∃ a ∈ l, f a = .error e := by
  induction l with
  | nil => cases h
  | cons a l ih =>
    rw [List.mapM_cons, bind_eq_error_iff] at h
    rcases h with h | ⟨b, -, h⟩
    · exact ⟨a, List.mem_cons_self, h⟩
    · rcases bind_eq_error_iff.mp h with h | ⟨rest, -, h⟩
      · obtain ⟨x, mem, failed⟩ := ih h
        exact ⟨x, List.mem_cons_of_mem a mem, failed⟩
      · cases h

/-- A list can be read iff each of its entries can. -/
lemma exists_mapM_eq_ok_iff {f : α → Except ε β} {l : List α} :
    (∃ out, l.mapM f = .ok out) ↔ ∀ a ∈ l, ∃ b, f a = .ok b := by
  constructor
  · rintro ⟨out, read⟩
    rw [mapM_eq_ok_iff] at read
    induction read with
    | nil => exact nofun
    | cons first _ ih => exact List.forall_mem_cons.mpr ⟨⟨_, first⟩, ih⟩
  · intro h
    cases read : l.mapM f with
    | ok out => exact ⟨out, rfl⟩
    | error e =>
      obtain ⟨a, mem, failed⟩ := exists_mem_of_mapM_error read
      obtain ⟨b, returned⟩ := h a mem
      rw [failed] at returned
      cases returned

lemma mapM_eq_ok_map {f : α → Except ε β} {g : α → β} {l : List α} (h : ∀ a ∈ l, f a = .ok (g a)) :
    l.mapM f = .ok (l.map g) := by
  rw [mapM_eq_ok_iff, List.forall₂_map_right_iff, List.forall₂_same]
  exact h

/-! ### Folds -/

lemma foldlM_cons_eq_ok_iff {f : β → α → Except ε β} {a : α} {l : List α} {b c : β} :
    (a :: l).foldlM f b = .ok c ↔ ∃ next, f b a = .ok next ∧ l.foldlM f next = .ok c := by
  rw [List.foldlM_cons, bind_eq_ok_iff]

/-- A fold whose steps all leave a value as it is. -/
lemma foldlM_eq_self {f : β → α → Except ε β} {l : List α} {b : β} (h : ∀ a ∈ l, f b a = .ok b) :
    l.foldlM f b = .ok b := by
  induction l with
  | nil => rfl
  | cons a l ih =>
    obtain ⟨first, rest⟩ := List.forall_mem_cons.mp h
    exact foldlM_cons_eq_ok_iff.mpr ⟨b, first, ih rest⟩

/-- A fold over a list runs to each place in it, takes the step there, and runs
over the rest. -/
lemma foldlM_split {f : β → α → Except ε β} {before after : List α} {a : α} {b c : β}
    (h : (before ++ a :: after).foldlM f b = .ok c) :
    ∃ here next, before.foldlM f b = .ok here ∧ f here a = .ok next ∧
      after.foldlM f next = .ok c := by
  rw [List.foldlM_append, bind_eq_ok_iff] at h
  obtain ⟨here, ran, h⟩ := h
  obtain ⟨next, step, rest⟩ := foldlM_cons_eq_ok_iff.mp h
  exact ⟨here, next, ran, step, rest⟩

/-- A fold fails iff it comes to a step that fails. -/
lemma foldlM_eq_error_iff {f : β → α → Except ε β} {l : List α} {b : β} {e : ε} :
    l.foldlM f b = .error e ↔
      ∃ before a after here, l = before ++ a :: after ∧ before.foldlM f b = .ok here ∧
        f here a = .error e := by
  constructor
  · intro failed
    -- the start value is general, since the steps before the failing one change it
    induction l generalizing b with
    | nil => cases failed
    | cons a l ih =>
      rw [List.foldlM_cons, bind_eq_error_iff] at failed
      rcases failed with failed | ⟨next, step, failed⟩
      · exact ⟨[], a, l, b, rfl, rfl, failed⟩
      · obtain ⟨before, x, after, here, rfl, ran, failed⟩ := ih failed
        exact ⟨a :: before, x, after, here, rfl, foldlM_cons_eq_ok_iff.mpr ⟨next, step, ran⟩, failed⟩
  · rintro ⟨before, a, after, here, rfl, ran, failed⟩
    rw [List.foldlM_append, bind_eq_error_iff]
    refine .inr ⟨here, ran, ?_⟩
    rw [List.foldlM_cons, bind_eq_error_iff]
    exact .inl failed

/-- A fold whose steps first look something up: everything may be looked up
before the first step. -/
lemma foldlM_bind_eq_ok_iff {look : α → Except ε γ} {f : β → γ → Except ε β} {l : List α} {b c : β} :
    l.foldlM (fun b a => look a >>= f b) b = .ok c ↔
      ∃ found, l.mapM look = .ok found ∧ found.foldlM f b = .ok c := by
  induction l generalizing b with
  | nil => exact ⟨fun h => ⟨[], rfl, h⟩, fun ⟨_, nothing, h⟩ => (by cases nothing; exact h)⟩
  | cons a l ih =>
    rw [foldlM_cons_eq_ok_iff]
    constructor
    · rintro ⟨next, step, rest⟩
      obtain ⟨x, look_a, step⟩ := bind_eq_ok_iff.mp step
      obtain ⟨found, look_l, rest⟩ := ih.mp rest
      refine ⟨x :: found, ?_, foldlM_cons_eq_ok_iff.mpr ⟨next, step, rest⟩⟩
      rw [List.mapM_cons, look_a, look_l]
      rfl
    · rintro ⟨all, look_all, run⟩
      rw [List.mapM_cons, bind_eq_ok_iff] at look_all
      obtain ⟨x, look_a, look_rest⟩ := look_all
      obtain ⟨found, look_l, all_eq⟩ := bind_eq_ok_iff.mp look_rest
      cases all_eq
      obtain ⟨next, step, rest⟩ := foldlM_cons_eq_ok_iff.mp run
      exact ⟨next, bind_eq_ok_iff.mpr ⟨x, look_a, step⟩, ih.mpr ⟨found, look_l, rest⟩⟩

/-- Steps that first look something up, when everything is found. -/
lemma foldlM_bind_eq {look : α → Except ε γ} {f : β → γ → Except ε β} {l : List α} {found : List γ}
    (h : l.mapM look = .ok found) (b : β) :
    l.foldlM (fun b a => look a >>= f b) b = found.foldlM f b := by
  rw [mapM_eq_ok_iff] at h
  induction h generalizing b with
  | nil => rfl
  | cons looked _ ih =>
    rw [List.foldlM_cons, List.foldlM_cons, looked]
    exact bind_congr ih

/-! ### Steps over lists -/

/-- Steps that go through a map go through it one after another. -/
lemma foldlM_map_comm {f : β → α → Except ε β} {f' : γ → α → Except ε γ} {g : β → γ}
    (h : ∀ b a, f' (g b) a = (f b a).map g) (l : List α) (b : β) :
    l.foldlM f' (g b) = (l.foldlM f b).map g := by
  induction l generalizing b with
  | nil => rfl
  | cons a l ih =>
    rw [List.foldlM_cons, List.foldlM_cons, h]
    cases f b a with
    | ok next => exact ih next
    | error e => rfl

/-- Related lists that are related further on. -/
lemma forall₂_comp_iff {R : α → β → Prop} {S : β → γ → Prop} {l : List α} {out : List γ} :
    (∃ mid, List.Forall₂ R l mid ∧ List.Forall₂ S mid out) ↔
      List.Forall₂ (fun a c => ∃ b, R a b ∧ S b c) l out := by
  constructor
  · rintro ⟨mid, first, second⟩
    induction first generalizing out with
    | nil =>
      cases second
      exact .nil
    | cons related _ ih =>
      cases second with
      | cons related' rest => exact .cons ⟨_, related, related'⟩ (ih rest)
  · intro h
    induction h with
    | nil => exact ⟨[], .nil, .nil⟩
    | cons related _ ih =>
      obtain ⟨b, first, second⟩ := related
      obtain ⟨mid, firsts, seconds⟩ := ih
      exact ⟨b :: mid, .cons first firsts, .cons second seconds⟩

/-- Steps over a whole list, one after another, have the same values as all steps
over each entry by itself. -/
lemma foldlM_mapM_eq_ok_iff {step : α → γ → Except ε α} {rules : List γ} {l out : List α} :
    rules.foldlM (fun l rule => l.mapM fun a => step a rule) l = .ok out ↔
      l.mapM (fun a => rules.foldlM step a) = .ok out := by
  rw [mapM_eq_ok_iff]
  induction rules generalizing l with
  | nil =>
    have same : ∀ a b : α, ([] : List γ).foldlM step a = .ok b ↔ a = b := fun a b =>
      ⟨Except.ok.inj, congrArg Except.ok⟩
    simp only [same]
    rw [List.forall₂_eq_eq_eq]
    exact ⟨Except.ok.inj, congrArg Except.ok⟩
  | cons rule rules ih =>
    calc (rule :: rules).foldlM (fun l rule => l.mapM fun a => step a rule) l = .ok out
        ↔ ∃ mid, List.Forall₂ (fun a b => step a rule = .ok b) l mid ∧
            List.Forall₂ (fun a b => rules.foldlM step a = .ok b) mid out := by
          rw [foldlM_cons_eq_ok_iff]
          simp only [mapM_eq_ok_iff, ih]
      _ ↔ List.Forall₂ (fun a b => ∃ next, step a rule = .ok next ∧ rules.foldlM step next = .ok b)
            l out := forall₂_comp_iff
      _ ↔ List.Forall₂ (fun a b => (rule :: rules).foldlM step a = .ok b) l out := by
          simp only [foldlM_cons_eq_ok_iff]

/-- Steps that can fail in one way only: they may be run over a whole list, one
after another, or all of them over each entry by itself. -/
lemma foldlM_mapM {step : α → γ → Except ε α} {e : ε}
    (only : ∀ a rule e', step a rule = .error e' → e' = e) (rules : List γ) (l : List α) :
    rules.foldlM (fun l rule => l.mapM fun a => step a rule) l =
      l.mapM fun a => rules.foldlM step a := by
  refine eq_of_ok_iff (e := e) (fun out => foldlM_mapM_eq_ok_iff) (fun e' failed => ?_) fun e' failed => ?_
  · obtain ⟨_, rule, _, here, -, -, failed⟩ := foldlM_eq_error_iff.mp failed
    obtain ⟨a, -, failed⟩ := exists_mem_of_mapM_error failed
    exact only a rule e' failed
  · obtain ⟨a, -, failed⟩ := exists_mem_of_mapM_error failed
    obtain ⟨_, rule, _, here, -, -, failed⟩ := foldlM_eq_error_iff.mp failed
    exact only here rule e' failed

end RecordRules
